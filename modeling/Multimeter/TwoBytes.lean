/-!
# Two-byte numbers

Numbers of two bytes, written from their halves.
-/

namespace Multimeter.TwoBytes

/-- The number with these halves. -/
def join (high low : UInt8) : UInt16 := UInt16.ofNat (high.toNat * 256 + low.toNat)

/-- The low half of a number. -/
def low (n : UInt16) : UInt8 := UInt8.ofNat (n.toNat % 256)

/-- The high half of a number. -/
def high (n : UInt16) : UInt8 := UInt8.ofNat (n.toNat / 256)

/-- A number is joined from its halves. -/
@[simp]
theorem join_high_low (n : UInt16) : join (high n) (low n) = n := by
  apply UInt16.toNat_inj.1
  have hn := n.toNat_lt
  simp only [join, high, low, UInt16.toNat_ofNat', UInt8.toNat_ofNat']
  omega

/-- The low half of a joined number. -/
@[simp]
theorem low_join (a b : UInt8) : low (join a b) = b := by
  apply UInt8.toNat_inj.1
  have ha := a.toNat_lt
  have hb := b.toNat_lt
  simp only [join, low, UInt16.toNat_ofNat', UInt8.toNat_ofNat']
  omega

/-- The high half of a joined number. -/
@[simp]
theorem high_join (a b : UInt8) : high (join a b) = a := by
  apply UInt8.toNat_inj.1
  have ha := a.toNat_lt
  have hb := b.toNat_lt
  simp only [join, high, UInt16.toNat_ofNat', UInt8.toNat_ofNat']
  omega

end Multimeter.TwoBytes
