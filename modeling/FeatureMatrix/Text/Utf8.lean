/-!
Decoding UTF-8. Bytes fall into characters and faults, a fault being the longest run that
begins like a character and goes wrong. A strict reading admits no fault, a lossy one puts
the replacement character for each.
-/

namespace FeatureMatrix.Text.Utf8

/-- What the first byte of a character says: how many bytes follow, between which bounds
the first of these lies, and the bits of the code point it carries. -/
structure Lead where
  following : Nat
  low : UInt8 := 0x80
  high : UInt8 := 0xbf
  bits : UInt8

/-- The bounds keep out code points that have a shorter form, surrogates, and all above
U+10FFFF. -/
def lead? (b : UInt8) : Option Lead :=
  if b < 0x80 then some { following := 0, bits := b }
  else if b < 0xc2 then none
  else if b < 0xe0 then some { following := 1, bits := b &&& 0x1f }
  else if b < 0xf0 then some
    { following := 2, bits := b &&& 0x0f
      low := if b == 0xe0 then 0xa0 else 0x80
      high := if b == 0xed then 0x9f else 0xbf }
  else if b < 0xf5 then some
    { following := 3, bits := b &&& 0x07
      low := if b == 0xf0 then 0x90 else 0x80
      high := if b == 0xf4 then 0x8f else 0xbf }
  else none

/-- Takes the bytes that follow, as long as they are in bounds; the code point if all are. -/
def tail (low high : UInt8) (point : Nat) : Nat → List UInt8 → Option Nat × List UInt8
  | 0, bytes => (some point, bytes)
  | _ + 1, [] => (none, [])
  | n + 1, b :: bytes =>
    if low ≤ b && b ≤ high then
      tail 0x80 0xbf (point * 64 + (b &&& 0x3f).toNat) n bytes
    else (none, b :: bytes)

theorem length_tail_le (low high : UInt8) (point n : Nat) (bytes : List UInt8) :
    (tail low high point n bytes).2.length ≤ bytes.length := by
  induction n generalizing low high point bytes with
  | zero => simp [tail]
  | succ n ih =>
    cases bytes with
    | nil => simp [tail]
    | cons b bytes =>
      simp only [tail]
      split
      · exact Nat.le_succ_of_le (ih ..)
      · simp

/-- The characters, with `none` for each fault. -/
def decode : List UInt8 → List (Option Char)
  | [] => []
  | b :: bytes =>
    match lead? b with
    | none => none :: decode bytes
    | some l =>
      let after := tail l.low l.high l.bits.toNat l.following bytes
      after.1.map Char.ofNat :: decode after.2
  termination_by bytes => bytes.length
  decreasing_by
    · exact Nat.lt_succ_self _
    · exact Nat.lt_succ_of_le (length_tail_le ..)

def strict? (bytes : List UInt8) : Option String :=
  (decode bytes).mapM id |>.map String.ofList

/-- The text, with U+FFFD for each fault. -/
def lossy (bytes : List UInt8) : String :=
  String.ofList ((decode bytes).map (·.getD '\ufffd'))

end FeatureMatrix.Text.Utf8
