/-!
# Hashes of texts

Three hashes of a text into words of 32 bits, each a fold over the code points
of its characters in arithmetic modulo 2 ^ 32.

* `fivefold`: multiply by five and add;
* `elf`: shift by four and add, folding the top four bits back in, so that the
  result stays below 2 ^ 28;
* `mixed`: add, shift and mix, with a final avalanche, never zero.
-/

namespace TaggedRpc.Digest

/-- The code point of a character as a word. -/
def codeWord (c : Char) : UInt32 := UInt32.ofNat c.toNat

/-- One character of `fivefold`. -/
def fivefoldStep (h : UInt32) (c : Char) : UInt32 := h * 5 + codeWord c

/-- Multiplies by five and adds, character by character. -/
def fivefold (s : String) : UInt32 := s.toList.foldl fivefoldStep 0

/-- One character of `elf`. -/
def elfStep (h : UInt32) (c : Char) : UInt32 :=
  let h := (h <<< 4) + codeWord c
  let g := h &&& 0xF0000000
  if g = 0 then h else (h ^^^ (g >>> 24)) ^^^ g

/-- Shifts by four and adds, folding the top four bits back in. -/
def elf (s : String) : UInt32 := s.toList.foldl elfStep 0

/-- One character of `mixed`. -/
def mixedStep (v : UInt32) (c : Char) : UInt32 :=
  let v := v + codeWord c
  let v := v + (v <<< 10)
  v ^^^ (v >>> 6)

/-- Adds, shifts and mixes; one in place of zero. -/
def mixed (s : String) : UInt32 :=
  let v := s.toList.foldl mixedStep 0
  let v := v + (v <<< 3)
  let v := v ^^^ (v >>> 11)
  let v := v + (v <<< 15)
  if v = 0 then 1 else v

end TaggedRpc.Digest
