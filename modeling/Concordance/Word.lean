/-!
# Bytes and words

Files are lists of bytes. Every number in them is a word: eight bytes, the least significant
first. `ofBytes` undoes `toBytes`, and eight bytes are the bytes of the word they denote.
-/
namespace Concordance

abbrev Bytes := List UInt8

namespace Word

/-- The number of bytes in a word. -/
def width : Nat := 8

/-- The byte of `word` with as many bytes below it as `place` says. -/
def byteAt (word : UInt64) (place : Nat) : UInt8 :=
  UInt8.ofNat (word.toNat >>> (8 * place))

def toBytes (word : UInt64) : Bytes :=
  (List.range width).map (byteAt word)

/-- The number that a list of bytes denotes, least significant byte first. -/
def value : Bytes → Nat
  | [] => 0
  | byte :: rest => byte.toNat + 256 * value rest

def ofBytes (bytes : Bytes) : UInt64 :=
  UInt64.ofNat (value bytes)

@[simp]
theorem length_toBytes (word : UInt64) : (toBytes word).length = width := by
  simp [toBytes]

theorem value_toBytes (word : UInt64) : value (toBytes word) = word.toNat := by
  have bound := word.toNat_lt
  simp only [toBytes, width, List.range, List.range.loop, List.map_cons, List.map_nil, value,
    byteAt, Nat.shiftRight_eq_div_pow, UInt8.toNat_ofNat']
  omega

@[simp]
theorem ofBytes_toBytes (word : UInt64) : ofBytes (toBytes word) = word := by
  simp [ofBytes, value_toBytes]

/-- Eight bytes are the bytes of the word that they denote. -/
theorem toBytes_ofBytes (bytes : Bytes) (full : bytes.length = width) :
    toBytes (ofBytes bytes) = bytes := by
  match bytes, full with
  | [a, b, c, d, e, f, g, h], _ =>
    have ha := a.toNat_lt; have hb := b.toNat_lt; have hc := c.toNat_lt; have hd := d.toNat_lt
    have he := e.toNat_lt; have hf := f.toNat_lt; have hg := g.toNat_lt; have hh := h.toNat_lt
    simp only [toBytes, width, List.range, List.range.loop, List.map_cons, List.map_nil,
      ofBytes, value, byteAt, Nat.shiftRight_eq_div_pow, UInt64.toNat_ofNat', List.cons.injEq,
      ← UInt8.toNat_inj, UInt8.toNat_ofNat', and_true]
    refine ⟨?_, ?_, ?_, ?_, ?_, ?_, ?_, ?_⟩ <;> omega

theorem toBytes_injective {left right : UInt64} (same : toBytes left = toBytes right) :
    left = right := by
  rw [← ofBytes_toBytes left, same, ofBytes_toBytes]

end Word

end Concordance
