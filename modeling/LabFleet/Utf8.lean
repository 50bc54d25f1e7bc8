/-!
Reading bytes as UTF-8 text when they may not be valid. Every well-formed sequence becomes
its character; every ill-formed stretch becomes one replacement character U+FFFD per
maximal subpart, that is, per longest prefix of a sequence that could still have been
completed. A stray continuation byte, a byte that starts no sequence, and a sequence cut
short by the end of the input or by a byte that cannot follow are each one replacement.
-/

namespace LabFleet.Utf8

/-- The character written for an ill-formed stretch. -/
def replacement : Char := '�'

/-- Whether a byte continues a sequence: one of 0x80 to 0xBF. -/
def isContinuation (b : UInt8) : Bool := 0x80 ≤ b.toNat && b.toNat ≤ 0xBF

/-- For a byte that starts a sequence of two to four bytes: the sequence's length and the
range its second byte must lie in. The narrower ranges after 0xE0, 0xED, 0xF0 and 0xF4 rule
out overlong forms, surrogates and code points above U+10FFFF. -/
def lead (b : UInt8) : Option (Nat × Nat × Nat) :=
  let n := b.toNat
  if 0xC2 ≤ n && n ≤ 0xDF then some (2, 0x80, 0xBF)
  else if n == 0xE0 then some (3, 0xA0, 0xBF)
  else if 0xE1 ≤ n && n ≤ 0xEC then some (3, 0x80, 0xBF)
  else if n == 0xED then some (3, 0x80, 0x9F)
  else if 0xEE ≤ n && n ≤ 0xEF then some (3, 0x80, 0xBF)
  else if n == 0xF0 then some (4, 0x90, 0xBF)
  else if 0xF1 ≤ n && n ≤ 0xF3 then some (4, 0x80, 0xBF)
  else if n == 0xF4 then some (4, 0x80, 0x8F)
  else none

/-- The low six bits of a continuation byte. -/
def low (b : UInt8) : Nat := b.toNat % 64

/-- The character at the front of the bytes `b :: rest` and how many bytes it takes. An
ill-formed stretch gives the replacement and the length of its maximal subpart, at least one. -/
def front (b : UInt8) (rest : List UInt8) : Char × Nat :=
  if b.toNat < 0x80 then (Char.ofNat b.toNat, 1)
  else
    match lead b, rest with
    | some (width, lo, hi), c1 :: r1 =>
      if !(lo ≤ c1.toNat && c1.toNat ≤ hi) then (replacement, 1)
      else if width == 2 then (Char.ofNat ((b.toNat % 32) * 64 + low c1), 2)
      else
        match r1 with
        | c2 :: r2 =>
          if !isContinuation c2 then (replacement, 2)
          else if width == 3 then
            (Char.ofNat ((b.toNat % 16) * 4096 + low c1 * 64 + low c2), 3)
          else
            match r2 with
            | c3 :: _ =>
              if isContinuation c3 then
                (Char.ofNat ((b.toNat % 8) * 262144 + low c1 * 4096 + low c2 * 64 + low c3), 4)
              else (replacement, 3)
            | [] => (replacement, 3)
        | [] => (replacement, 2)
    | _, _ => (replacement, 1)

/-- The characters bytes spell, with ill-formed stretches replaced. -/
def decodeLossy (bytes : List UInt8) : List Char :=
  match bytes with
  | [] => []
  | b :: rest =>
    let (c, n) := front b rest
    c :: decodeLossy (rest.drop (n - 1))
termination_by bytes.length
decreasing_by simp only [List.length_drop, List.length_cons]; omega

/-- How many bytes at the front form valid UTF-8: the length of the longest prefix that
decodes without a replacement for an ill-formed stretch. -/
def validPrefix (bytes : List UInt8) : Nat :=
  match bytes with
  | [] => 0
  | b :: rest =>
    let (c, n) := front b rest
    if c == replacement && !(b == 0xEF && rest.take 2 == [0xBF, 0xBD]) then 0
    else n + validPrefix (rest.drop (n - 1))
termination_by bytes.length
decreasing_by simp only [List.length_drop, List.length_cons]; omega

/-- The text bytes spell, with ill-formed stretches replaced. -/
def textOf (bytes : List UInt8) : String := String.ofList (decodeLossy bytes)

end LabFleet.Utf8
