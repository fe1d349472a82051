import FieldRules.Unicode.CharSet

/-!
# Sets of characters as bytes

In UTF-8 a set of characters is a list of sequences of byte ranges: a character is in the set when
its bytes are in the ranges of one sequence, place by place. `sequences` gives such a list, in the
order of the characters and with as few sequences as their bounds allow.
-/

namespace FieldRules.Utf8

abbrev ByteRange := Nat × Nat

/-- Code points that are written with equally many bytes: how many follow the first one, and what is
added to the first one. -/
structure Plane where
  first : Nat
  last : Nat
  following : Nat
  mark : Nat

def planes : List Plane :=
  [⟨0, 0x7F, 0, 0⟩, ⟨0x80, 0x7FF, 1, 0xC0⟩, ⟨0x800, 0xD7FF, 2, 0xE0⟩, ⟨0xE000, 0xFFFF, 2, 0xE0⟩,
    ⟨0x10000, 0x10FFFF, 3, 0xF0⟩]

def continuation : Nat := 0x80

def anyFollowing (count : Nat) : List ByteRange :=
  List.replicate count (continuation, continuation + 63)

/-- The sequences for the numbers from `first` to `last`, each of a byte and `following` more with
six bits each. First and last come by themselves where they do not fill a block. -/
def between (mark first last : Nat) : (following : Nat) → List (List ByteRange)
  | 0 => [[(mark + first, mark + last)]]
  | following + 1 =>
    let block := 1 <<< (6 * (following + 1))
    let (low, high) := (first / block, last / block)
    let (start, stop) := (first % block, last % block)
    let below (digit start stop : Nat) : List (List ByteRange) :=
      (between continuation start stop following).map ((mark + digit, mark + digit) :: ·)
    if low = high then below low start stop
    else
      let fullLow := if start = 0 then low else low + 1
      let endHigh := if stop = block - 1 then high + 1 else high
      (if start = 0 then [] else below low start (block - 1)) ++
        (if fullLow < endHigh then
          [(mark + fullLow, mark + endHigh - 1) :: anyFollowing (following + 1)]
        else []) ++
        (if stop = block - 1 then [] else below high 0 stop)

def sequencesIn (range : Nat × Nat) (p : Plane) : List (List ByteRange) :=
  let (first, last) := (max range.1 p.first, min range.2 p.last)
  if first ≤ last then between p.mark first last p.following else []

def sequences (s : CharSet) : List (List ByteRange) :=
  s.ranges.flatMap fun range => planes.flatMap (sequencesIn range)

end FieldRules.Utf8
