import Mathlib
import IndicatorWrap.Text.Lines
import IndicatorWrap.Text.Utf8

/-!
What a file gives back of the text that was written to it. Decoding gives back what was encoded:
the first byte of a character tells how many bytes follow and which bounds the first of these has,
and every character that is encoded keeps within them. And line feeds are given back in whichever
of three ways they were written, if the text has no carriage return of its own.
-/

namespace IndicatorWrap.Text

namespace Utf8

theorem toNat_toUInt8 {n : Nat} (h : n < 0x100) : n.toUInt8.toNat = n := by
  simp only [Nat.toUInt8_eq, UInt8.toNat_ofNat']
  omega

/-- The code points that characters have. -/
theorem toNat_bounds (c : Char) :
    c.toNat < 0xD800 ∨ 0xDFFF < c.toNat ∧ c.toNat < 0x110000 := by
  have hvalid := c.valid
  simp only [UInt32.isValidChar, Nat.isValidChar] at hvalid
  simpa only [Char.toNat] using hvalid

/-- One more byte of a character, if it is within the bounds. -/
theorem tails_succ {count value low high : Nat} {byte : Nat} {bytes : Bytes}
    {result : Nat × Bytes} (hlow : low ≤ byte) (hhigh : byte ≤ high) (hbyte : byte < 0x100)
    (h : tails count (value * 0x40 + (byte - 0x80)) 0x80 0xBF bytes = .ok result) :
    tails (count + 1) value low high (byte.toUInt8 :: bytes) = .ok result := by
  rw [tails, toNat_toUInt8 hbyte, if_pos ⟨hlow, hhigh⟩, h]

theorem lead?_one {n : Nat} (h : n < 0x80) : lead? n.toUInt8 = some ⟨n, 0, 0x80, 0xBF⟩ := by
  rw [lead?, toNat_toUInt8 (by omega)]
  exact if_pos h

theorem lead?_two {n : Nat} (h : 2 ≤ n) (h' : n < 0x20) :
    lead? (0xC0 + n).toUInt8 = some ⟨n, 1, 0x80, 0xBF⟩ := by
  interval_cases n <;> rfl

theorem lead?_three {n : Nat} (h : n < 0x10) :
    lead? (0xE0 + n).toUInt8 =
      some ⟨n, 2, if n = 0 then 0xA0 else 0x80, if n = 0xD then 0x9F else 0xBF⟩ := by
  interval_cases n <;> rfl

theorem lead?_four {n : Nat} (h : n ≤ 4) :
    lead? (0xF0 + n).toUInt8 =
      some ⟨n, 3, if n = 0 then 0x90 else 0x80, if n = 4 then 0x8F else 0xBF⟩ := by
  interval_cases n <;> rfl

theorem tails_zero {value code low high : Nat} {bytes : Bytes} (h : value = code) :
    tails 0 value low high bytes = .ok (code, bytes) := by
  rw [h]
  rfl

/-- Whether bytes are read as a code point, however the input goes on. -/
def Reads (bytes : Bytes) (code : Nat) : Prop :=
  ∃ first others lead, bytes = first :: others ∧ lead? first = some lead ∧
    ∀ rest, tails lead.tails lead.value lead.low lead.high (others ++ rest) = .ok (code, rest)

section

variable {n : Nat}

theorem reads_one (h : n < 0x80) : Reads [n.toUInt8] n :=
  ⟨_, _, _, rfl, lead?_one h, fun _ => rfl⟩

theorem reads_two (h : 0x80 ≤ n) (h' : n < 0x800) :
    Reads [(0xC0 + n / 0x40).toUInt8, (0x80 + n % 0x40).toUInt8] n := by
  refine ⟨_, _, _, rfl, lead?_two (by omega) (by omega), fun rest => ?_⟩
  dsimp only
  refine tails_succ (by omega) (by omega) (by omega) ?_
  exact tails_zero (by omega)

theorem reads_three (h : 0x800 ≤ n) (h' : n < 0x10000) (hbounds : n < 0xD800 ∨ 0xDFFF < n) :
    Reads [(0xE0 + n / 0x1000).toUInt8, (0x80 + n / 0x40 % 0x40).toUInt8,
      (0x80 + n % 0x40).toUInt8] n := by
  refine ⟨_, _, _, rfl, lead?_three (by omega), fun rest => ?_⟩
  dsimp only
  refine tails_succ (by split <;> omega) (by split <;> omega) (by omega) ?_
  refine tails_succ (by omega) (by omega) (by omega) ?_
  exact tails_zero (by omega)

theorem reads_four (h : 0x10000 ≤ n) (h' : n < 0x110000) :
    Reads [(0xF0 + n / 0x40000).toUInt8, (0x80 + n / 0x1000 % 0x40).toUInt8,
      (0x80 + n / 0x40 % 0x40).toUInt8, (0x80 + n % 0x40).toUInt8] n := by
  refine ⟨_, _, _, rfl, lead?_four (by omega), fun rest => ?_⟩
  dsimp only
  refine tails_succ (by split <;> omega) (by split <;> omega) (by omega) ?_
  refine tails_succ (by omega) (by omega) (by omega) ?_
  refine tails_succ (by omega) (by omega) (by omega) ?_
  exact tails_zero (by omega)

end

theorem reads_encodeChar (c : Char) : Reads (encodeChar c) c.toNat := by
  have hbounds := toNat_bounds c
  simp only [encodeChar]
  split
  · next hone => exact reads_one hone
  · split
    · next htwo => exact reads_two (by omega) htwo
    · split
      · next hthree => exact reads_three (by omega) hthree (by omega)
      · next hfour => exact reads_four (by omega) (by omega)

/-- A character is decoded and then the rest. -/
theorem Reads.decodeFrom_append {bytes : Bytes} {code : Nat} (h : Reads bytes code)
    (position : Nat) (rest : Bytes) : ∃ later,
      decodeFrom position (bytes ++ rest) =
        (decodeFrom later rest).map (Char.ofNat code :: ·) := by
  obtain ⟨first, others, lead, rfl, hlead, htails⟩ := h
  refine ⟨position + 1 + lead.tails, ?_⟩
  rw [List.cons_append, decodeFrom]
  simp only [hlead]
  split
  · next herror => cases (htails rest).symm.trans herror
  · next hok =>
      cases (htails rest).symm.trans hok
      cases decodeFrom (position + 1 + lead.tails) rest with
      | error fault => rfl
      | ok text => rfl

theorem decodeFrom_encode (position : Nat) (text : List Char) :
    decodeFrom position (encode text) = .ok text := by
  induction text generalizing position with
  | nil => rw [encode, List.flatMap_nil, decodeFrom]
  | cons c text ih =>
      obtain ⟨later, hcons⟩ := (reads_encodeChar c).decodeFrom_append position (encode text)
      rw [encode, List.flatMap_cons, ← encode, hcons, ih, Char.ofNat_toNat]
      rfl

theorem decode_encode (text : List Char) : decode (encode text) = .ok text :=
  decodeFrom_encode 0 text

end Utf8

/-- How the lines of a file end. -/
inductive LineEnd where
  | lineFeed
  | returnAndFeed
  | carriageReturn
deriving DecidableEq, Repr

namespace LineEnd

def text : LineEnd → List Char
  | .lineFeed => ['\n']
  | .returnAndFeed => ['\r', '\n']
  | .carriageReturn => ['\r']

/-- A text as it is written with this end in place of every line feed. -/
def write (lineEnd : LineEnd) (text : List Char) : List Char :=
  text.flatMap fun c => if c = '\n' then lineEnd.text else [c]

theorem write_cons (lineEnd : LineEnd) (c : Char) (text : List Char) :
    lineEnd.write (c :: text) = (if c = '\n' then lineEnd.text else [c]) ++ lineEnd.write text :=
  List.flatMap_cons

/-- No line feed is written, so that none follows a carriage return. -/
theorem head?_write_carriageReturn (text : List Char) :
    (carriageReturn.write text).head? ≠ some '\n' := by
  cases text with
  | nil => simp [write]
  | cons c text =>
      rw [write_cons]
      split
      · simp [LineEnd.text]
      · next hc => simpa using hc

end LineEnd

theorem unifyLineEnds_cons {c : Char} (hc : c ≠ '\r') (rest : List Char) :
    unifyLineEnds (c :: rest) = c :: unifyLineEnds rest := by
  rw [unifyLineEnds]
  · exact fun _ hreturn _ => hc hreturn
  · exact hc

theorem unifyLineEnds_return {rest : List Char} (h : rest.head? ≠ some '\n') :
    unifyLineEnds ('\r' :: rest) = '\n' :: unifyLineEnds rest := by
  rw [unifyLineEnds]
  rintro more rfl
  exact h rfl

/-- However the lines end in a file, they are read as they were meant. -/
theorem unifyLineEnds_write {text : List Char} (h : '\r' ∉ text) (lineEnd : LineEnd) :
    unifyLineEnds (lineEnd.write text) = text := by
  induction text with
  | nil => rfl
  | cons c text ih =>
      obtain ⟨hc, htext⟩ := List.ne_and_not_mem_of_not_mem_cons h
      have hmore := ih htext
      rw [LineEnd.write_cons]
      split
      · next hfeed =>
          subst hfeed
          cases lineEnd with
          | lineFeed => rw [LineEnd.text, List.singleton_append, unifyLineEnds_cons hc.symm, hmore]
          | returnAndFeed =>
              rw [LineEnd.text, List.cons_append, List.singleton_append, unifyLineEnds, hmore]
          | carriageReturn =>
              rw [LineEnd.text, List.singleton_append,
                unifyLineEnds_return (LineEnd.head?_write_carriageReturn text), hmore]
      · rw [List.singleton_append, unifyLineEnds_cons hc.symm, hmore]

end IndicatorWrap.Text
