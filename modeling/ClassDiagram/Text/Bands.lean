import ClassDiagram.Text.Chart

/-!
# Bands of code points

Character properties are given as charts of bands.  A band holds every code
point from its first to its last that lies a whole number of steps above the
first, so alternating runs of letters take one entry.
-/

namespace ClassDiagram.Text

/-- The code points `first`, `first + step`, … up to `last`. -/
structure Band where
  first : Nat
  last : Nat
  step : Nat
  deriving DecidableEq, Repr

def Band.holds (band : Band) (code : Nat) : Bool :=
  band.first ≤ code && code ≤ band.last && (code - band.first) % band.step == 0

structure Shift where
  first : Nat
  last : Nat
  step : Nat
  distance : Int
  deriving DecidableEq, Repr

def Shift.band (shift : Shift) : Band := ⟨shift.first, shift.last, shift.step⟩

def Shift.image (shift : Shift) (code : Nat) : Char :=
  Char.ofNat (code + shift.distance).toNat

/-- Whether the band that starts last before a code point holds it. -/
def inBands (bands : Chart Band) (code : Nat) : Bool :=
  (bands.find? code).any (·.holds code)

def inRanges (ranges : Chart (Nat × Nat)) (code : Nat) : Bool :=
  (ranges.find? code).any fun range => range.1 ≤ code && code ≤ range.2

@[simp] theorem inBands_empty (code : Nat) : inBands .empty code = false := rfl

@[simp] theorem inRanges_empty (code : Nat) : inRanges .empty code = false := rfl

end ClassDiagram.Text
