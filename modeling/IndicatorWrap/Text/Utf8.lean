/-!
Texts as bytes in UTF-8. Decoding is strict: it takes no overlong form and no
surrogate, and on bad input it names the longest run of bytes that could have
begun a character and what is wrong after it.
-/

namespace IndicatorWrap.Text.Utf8

abbrev Bytes := List UInt8

/-- The bytes of one character. -/
def encodeChar (c : Char) : Bytes :=
  let n := c.toNat
  if n < 0x80 then
    [n.toUInt8]
  else if n < 0x800 then
    [(0xC0 + n / 0x40).toUInt8, (0x80 + n % 0x40).toUInt8]
  else if n < 0x10000 then
    [(0xE0 + n / 0x1000).toUInt8, (0x80 + n / 0x40 % 0x40).toUInt8, (0x80 + n % 0x40).toUInt8]
  else
    [(0xF0 + n / 0x40000).toUInt8, (0x80 + n / 0x1000 % 0x40).toUInt8,
      (0x80 + n / 0x40 % 0x40).toUInt8, (0x80 + n % 0x40).toUInt8]

def encode (text : List Char) : Bytes :=
  text.flatMap encodeChar

/-- What the first byte of a character fixes: its own part of the code point,
how many bytes follow, and the bounds of the first of these, which rule out
overlong forms, surrogates and code points past the last one. -/
structure Lead where
  value : Nat
  tails : Nat
  low : Nat
  high : Nat

def lead? (byte : UInt8) : Option Lead :=
  let n := byte.toNat
  if n < 0x80 then some ⟨n, 0, 0x80, 0xBF⟩
  else if n < 0xC2 then none
  else if n < 0xE0 then some ⟨n - 0xC0, 1, 0x80, 0xBF⟩
  else if n = 0xE0 then some ⟨0, 2, 0xA0, 0xBF⟩
  else if n = 0xED then some ⟨0xD, 2, 0x80, 0x9F⟩
  else if n < 0xF0 then some ⟨n - 0xE0, 2, 0x80, 0xBF⟩
  else if n = 0xF0 then some ⟨0, 3, 0x90, 0xBF⟩
  else if n < 0xF4 then some ⟨n - 0xF0, 3, 0x80, 0xBF⟩
  else if n = 0xF4 then some ⟨4, 3, 0x80, 0x8F⟩
  else none

inductive Reason where
  | badStart
  | badContinuation
  | cutShort
deriving DecidableEq, Repr

/-- The rest of a character after its first byte: its code point and the bytes
after it, or what is wrong and how many of its bytes were good. -/
def tails : (count value low high : Nat) → Bytes → Except (Reason × Nat) (Nat × Bytes)
  | 0, value, _, _, bytes => .ok (value, bytes)
  | _ + 1, _, _, _, [] => .error (.cutShort, 0)
  | count + 1, value, low, high, byte :: bytes =>
    if low ≤ byte.toNat ∧ byte.toNat ≤ high then
      match tails count (value * 0x40 + (byte.toNat - 0x80)) 0x80 0xBF bytes with
      | .ok result => .ok result
      | .error (reason, good) => .error (reason, good + 1)
    else
      .error (.badContinuation, 0)

theorem tails_length {count value low high : Nat} {bytes rest : Bytes} {code : Nat}
    (h : tails count value low high bytes = .ok (code, rest)) :
    rest.length ≤ bytes.length := by
  induction count generalizing value low high bytes with
  | zero =>
      cases h
      exact Nat.le_refl _
  | succ count ih =>
      cases bytes with
      | nil => cases h
      | cons byte bytes =>
          simp only [tails] at h
          split at h
          · split at h
            · next hok =>
                cases h
                exact Nat.le_succ_of_le (ih hok)
            · cases h
          · cases h

/-- Bad input: the place of the first byte of the run at fault, the bytes of
the run, and the reason. -/
structure Fault where
  position : Nat
  first : UInt8
  length : Nat
  reason : Reason
deriving DecidableEq, Repr

/-- Decodes bytes of which the first stands at the given place of the input. -/
def decodeFrom (position : Nat) (bytes : Bytes) : Except Fault (List Char) :=
  match bytes with
  | [] => .ok []
  | first :: bytes =>
    match lead? first with
    | none => .error ⟨position, first, 1, .badStart⟩
    | some lead =>
      match h : tails lead.tails lead.value lead.low lead.high bytes with
      | .error (reason, good) => .error ⟨position, first, good + 1, reason⟩
      | .ok (code, rest) => do
        let text ← decodeFrom (position + 1 + lead.tails) rest
        return Char.ofNat code :: text
termination_by bytes.length
decreasing_by
  have := tails_length h
  simp only [List.length_cons]
  omega

def decode (bytes : Bytes) : Except Fault (List Char) :=
  decodeFrom 0 bytes

end IndicatorWrap.Text.Utf8
