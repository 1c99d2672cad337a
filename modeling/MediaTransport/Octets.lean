/-
# MediaTransport.Octets -- byte strings and the words they carry

Packets are plain lists of octets.  Words travel most significant octet first;
`word16` and `word32` put octets together, `ofWord16` and `ofWord32` take a word
apart again, and `splitWord16`, `splitWord32` read a word off the front of a
byte string.  The two directions are inverse (`splitWord32_ofWord32` and its
companions), so a field that is written and read back is unchanged.
-/

namespace MediaTransport

set_option autoImplicit false

/-- A byte string as it travels on the wire. -/
abbrev Octets := List UInt8

namespace Octets

/-! ## Words from octets -/

/-- The 16-bit word whose most significant octet is the first. -/
def word16 (a b : UInt8) : UInt16 :=
  UInt16.ofNat (a.toNat * 256 + b.toNat)

/-- The 32-bit word whose most significant octet is the first. -/
def word32 (a b c d : UInt8) : UInt32 :=
  UInt32.ofNat (((a.toNat * 256 + b.toNat) * 256 + c.toNat) * 256 + d.toNat)

/-- The two octets of a word, most significant first. -/
def ofWord16 (w : UInt16) : Octets :=
  [UInt8.ofNat (w.toNat / 256), UInt8.ofNat w.toNat]

/-- The four octets of a word, most significant first. -/
def ofWord32 (w : UInt32) : Octets :=
  [UInt8.ofNat (w.toNat / 16777216), UInt8.ofNat (w.toNat / 65536),
    UInt8.ofNat (w.toNat / 256), UInt8.ofNat w.toNat]

/-- The word at the front, if there are two octets. -/
def splitWord16 : Octets → Option UInt16
  | a :: b :: _ => some (word16 a b)
  | _ => none

/-- The word at the front, if there are four octets. -/
def splitWord32 : Octets → Option UInt32
  | a :: b :: c :: d :: _ => some (word32 a b c d)
  | _ => none

/-- The 32-bit word that starts at an offset. -/
def word32At (bytes : Octets) (offset : Nat) : Option UInt32 :=
  splitWord32 (bytes.drop offset)

@[simp] theorem length_ofWord16 (w : UInt16) : (ofWord16 w).length = 2 := rfl

@[simp] theorem length_ofWord32 (w : UInt32) : (ofWord32 w).length = 4 := rfl

theorem toNat_word16 (a b : UInt8) : (word16 a b).toNat = a.toNat * 256 + b.toNat := by
  have ha := a.toNat_lt
  have hb := b.toNat_lt
  simp only [word16, UInt16.toNat_ofNat']
  omega

theorem toNat_word32 (a b c d : UInt8) :
    (word32 a b c d).toNat =
      ((a.toNat * 256 + b.toNat) * 256 + c.toNat) * 256 + d.toNat := by
  have ha := a.toNat_lt
  have hb := b.toNat_lt
  have hc := c.toNat_lt
  have hd := d.toNat_lt
  simp only [word32, UInt32.toNat_ofNat']
  omega

/-- A 16-bit word that is written and read back is unchanged. -/
theorem splitWord16_ofWord16 (w : UInt16) (rest : Octets) :
    splitWord16 (ofWord16 w ++ rest) = some w := by
  have h := w.toNat_lt
  simp only [ofWord16, List.cons_append, splitWord16, Option.some.injEq]
  apply UInt16.toNat_inj.1
  rw [toNat_word16]
  simp only [UInt8.toNat_ofNat']
  omega

/-- A 32-bit word that is written and read back is unchanged. -/
theorem splitWord32_ofWord32 (w : UInt32) (rest : Octets) :
    splitWord32 (ofWord32 w ++ rest) = some w := by
  have h := w.toNat_lt
  simp only [ofWord32, List.cons_append, splitWord32, Option.some.injEq]
  apply UInt32.toNat_inj.1
  rw [toNat_word32]
  simp only [UInt8.toNat_ofNat']
  omega

/-- The octets of a word that was read are the octets it was read from. -/
theorem ofWord32_word32 (a b c d : UInt8) : ofWord32 (word32 a b c d) = [a, b, c, d] := by
  have ha := a.toNat_lt
  have hb := b.toNat_lt
  have hc := c.toNat_lt
  have hd := d.toNat_lt
  simp only [ofWord32, toNat_word32, List.cons.injEq, and_true]
  refine ⟨?_, ?_, ?_, ?_⟩ <;>
    (apply UInt8.toNat_inj.1; simp only [UInt8.toNat_ofNat']; omega)

theorem ofWord16_word16 (a b : UInt8) : ofWord16 (word16 a b) = [a, b] := by
  have ha := a.toNat_lt
  have hb := b.toNat_lt
  simp only [ofWord16, toNat_word16, List.cons.injEq, and_true]
  refine ⟨?_, ?_⟩ <;>
    (apply UInt8.toNat_inj.1; simp only [UInt8.toNat_ofNat']; omega)

theorem splitWord32_eq_some_iff {bytes : Octets} {w : UInt32} :
    splitWord32 bytes = some w ↔ ∃ rest, bytes = ofWord32 w ++ rest := by
  constructor
  · intro found
    rcases bytes with _ | ⟨a, _ | ⟨b, _ | ⟨c, _ | ⟨d, rest⟩⟩⟩⟩ <;> cases found
    exact ⟨rest, by rw [ofWord32_word32]; rfl⟩
  · rintro ⟨rest, rfl⟩
    exact splitWord32_ofWord32 w rest

theorem exists_ofWord16_append {bytes : Octets} (long : 2 ≤ bytes.length) :
    ∃ w rest, bytes = ofWord16 w ++ rest := by
  rcases bytes with _ | ⟨a, _ | ⟨b, rest⟩⟩
  case cons.cons => exact ⟨word16 a b, rest, by rw [ofWord16_word16]; rfl⟩
  all_goals simp at long

theorem exists_ofWord32_append {bytes : Octets} (long : 4 ≤ bytes.length) :
    ∃ w rest, bytes = ofWord32 w ++ rest := by
  rcases bytes with _ | ⟨a, _ | ⟨b, _ | ⟨c, _ | ⟨d, rest⟩⟩⟩⟩
  case cons.cons.cons.cons => exact ⟨word32 a b c d, rest, by rw [ofWord32_word32]; rfl⟩
  all_goals simp at long

end Octets

end MediaTransport
