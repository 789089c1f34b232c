import Mathlib
import IndicatorWrap.Proofs.Text.Lines

/-!
Reading numerals back. A numeral of digits gives its number again, and so does one with commas
once these are taken out; the commas stand behind every third digit from the right.
-/

namespace IndicatorWrap.Text

/-- The number that digits stand for. -/
def valueOf (digits : List Char) : Nat :=
  digits.foldl (fun value c => 10 * value + (c.toNat - '0'.toNat)) 0

/-- The number of a text that has digits and nothing else. -/
def natural? (text : List Char) : Option Nat :=
  if text ≠ [] ∧ text.all Char.isDigit then some (valueOf text) else none

/-- The number of a text that has digits and perhaps a minus sign in front. -/
def integer? : List Char → Option Int
  | '-' :: text => (natural? text).map fun n : Nat => -(n : Int)
  | text => (natural? text).map fun n : Nat => (n : Int)

def withoutSign : List Char → List Char
  | '-' :: text => text
  | text => text

def withoutCommas (text : List Char) : List Char :=
  text.filter (· ≠ ',')

/-- Whether a text begins with a digit, every fourth character from the right is a comma and
all others are digits. -/
structure InThrees (text : List Char) : Prop where
  head : ∃ first rest, text = first :: rest ∧ first.isDigit
  fromRight : ∀ index c, text.reverse[index]? = some c →
    if index % 4 = 3 then c = ',' else c.isDigit

/-- Whether a text is the numeral of an integer, its digits in groups of three. -/
structure IsGrouped (text : List Char) (n : Int) : Prop where
  inThrees : InThrees (withoutSign text)
  value : integer? (withoutCommas text) = some n

theorem isDigit_digit (n : Nat) : (digit n).isDigit := by
  have hdigits : ∀ k < 10, (Char.ofNat (48 + k)).isDigit := by decide
  exact hdigits (n % 10) (Nat.mod_lt n (by omega))

theorem toNat_digit (n : Nat) : (digit n).toNat - '0'.toNat = n % 10 := by
  have hdigits : ∀ k < 10, (Char.ofNat (48 + k)).toNat - '0'.toNat = k := by decide
  exact hdigits (n % 10) (Nat.mod_lt n (by omega))

theorem isDigit_of_mem_digits {n : Nat} {c : Char} (h : c ∈ digits n) : c.isDigit := by
  fun_induction digits n with
  | case1 n hsmall =>
      rw [List.mem_singleton.mp h]
      exact isDigit_digit n
  | case2 n hlarge ih =>
      rcases List.mem_append.mp h with hfront | hlast
      · exact ih hfront
      · rw [List.mem_singleton.mp hlast]
        exact isDigit_digit n

theorem digits_ne_nil (n : Nat) : digits n ≠ [] := by
  unfold digits
  split <;> simp

theorem digits_eq {n : Nat} (h : 10 ≤ n) : digits n = digits (n / 10) ++ [digit n] := by
  rw [digits, if_neg (by omega)]

theorem valueOf_concat (front : List Char) (last : Char) :
    valueOf (front ++ [last]) = 10 * valueOf front + (last.toNat - '0'.toNat) := by
  simp [valueOf]

theorem valueOf_digits (n : Nat) : valueOf (digits n) = n := by
  fun_induction digits n with
  | case1 n hsmall =>
      have hlast : valueOf [digit n] = 10 * valueOf [] + _ := valueOf_concat [] (digit n)
      rw [hlast, toNat_digit]
      simp only [valueOf, List.foldl_nil]
      omega
  | case2 n hlarge ih =>
      rw [valueOf_concat, ih, toNat_digit]
      omega

theorem natural?_digits (n : Nat) : natural? (digits n) = some n := by
  have hdigits : (digits n).all Char.isDigit := by
    rw [List.all_eq_true]
    exact fun c hc => isDigit_of_mem_digits hc
  rw [natural?, if_pos ⟨digits_ne_nil n, hdigits⟩, valueOf_digits]

theorem isDigit_ne {c : Char} (h : c.isDigit) : c ≠ '-' ∧ c ≠ ',' := by
  constructor
  · rintro rfl
    exact absurd h (by decide)
  · rintro rfl
    exact absurd h (by decide)

theorem integer?_digits (n : Nat) : integer? (digits n) = some (n : Int) := by
  have hsign : ∀ rest, digits n ≠ '-' :: rest := by
    intro rest heq
    have hmem : '-' ∈ digits n := heq ▸ List.mem_cons_self
    exact (isDigit_ne (isDigit_of_mem_digits hmem)).1 rfl
  rw [integer?, natural?_digits, Option.map_some]
  exact hsign

/-- The text of an integer is read as that of its absolute value is. -/
theorem integer?_signed {text : Nat → List Char}
    (h : ∀ n : Nat, integer? (text n) = some (n : Int) ∧ natural? (text n) = some n) (n : Int) :
    integer? (signed text n) = some n := by
  unfold signed
  split
  · rw [integer?, (h _).2, Option.map_some]
    congr 1
    omega
  · rw [(h _).1]
    congr 1
    omega

theorem integer?_decimal (n : Int) : integer? (decimal n).toList = some n := by
  rw [decimal, String.toList_ofList]
  exact integer?_signed (fun n => ⟨integer?_digits n, natural?_digits n⟩) n

/-- The last three digits of a number stand behind those of its thousands. -/
theorem digits_thousands {n : Nat} (h : 1000 ≤ n) :
    digits n = digits (n / 1000) ++ [digit (n / 100), digit (n / 10), digit n] := by
  rw [digits_eq (show 10 ≤ n by omega), digits_eq (show 10 ≤ n / 10 by omega),
    digits_eq (show 10 ≤ n / 10 / 10 by omega)]
  simp [Nat.div_div_eq_div_mul]

theorem withoutCommas_digits (n : Nat) : withoutCommas (digits n) = digits n := by
  rw [withoutCommas, List.filter_eq_self]
  intro c hc
  simpa using (isDigit_ne (isDigit_of_mem_digits hc)).2

theorem withoutCommas_groupedDigits (n : Nat) : withoutCommas (groupedDigits n) = digits n := by
  fun_induction groupedDigits n with
  | case1 n hsmall => exact withoutCommas_digits n
  | case2 n hlarge ih =>
      have hdigit : ∀ k, digit k ≠ ',' := fun k => (isDigit_ne (isDigit_digit k)).2
      rw [digits_thousands (by omega), ← ih]
      simp [withoutCommas, hdigit]

theorem exists_head_digits (n : Nat) : ∃ first rest, digits n = first :: rest ∧ first.isDigit := by
  obtain ⟨first, rest, hdigits⟩ := List.exists_cons_of_ne_nil (digits_ne_nil n)
  exact ⟨first, rest, hdigits, isDigit_of_mem_digits (hdigits ▸ List.mem_cons_self)⟩

theorem length_digits_succ_le {n limit : Nat} (hlimit : (digits (n / 10)).length ≤ limit) :
    (digits n).length ≤ limit + 1 := by
  rw [digits]
  split
  · simp
  · simpa using hlimit

theorem length_digits_le {n : Nat} (h : n < 1000) : (digits n).length ≤ 3 := by
  have hone : (digits (n / 10 / 10)).length ≤ 1 := by
    rw [digits, if_pos (by omega)]
    rfl
  exact length_digits_succ_le (length_digits_succ_le hone)

theorem inThrees_digits {n : Nat} (h : n < 1000) : InThrees (digits n) := by
  refine ⟨exists_head_digits n, fun index c hc => ?_⟩
  have hlength := length_digits_le h
  obtain ⟨hindex, rfl⟩ := List.getElem?_eq_some_iff.mp hc
  rw [List.length_reverse] at hindex
  rw [if_neg (by omega)]
  exact isDigit_of_mem_digits (List.mem_reverse.mp (List.getElem_mem _))

/-- Three digits behind a comma make one more group. -/
theorem InThrees.append {front : List Char} (h : InThrees front) {a b c : Char} (ha : a.isDigit)
    (hb : b.isDigit) (hc : c.isDigit) : InThrees (front ++ [',', a, b, c]) := by
  constructor
  · obtain ⟨first, rest, rfl, hdigit⟩ := h.head
    exact ⟨first, rest ++ [',', a, b, c], rfl, hdigit⟩
  · intro index last hlast
    have hreverse : (front ++ [',', a, b, c]).reverse = c :: b :: a :: ',' :: front.reverse := by
      simp
    rw [hreverse] at hlast
    match index with
    | 0 | 1 | 2 | 3 =>
        obtain rfl := Option.some.inj hlast
        simp [ha, hb, hc]
    | more + 4 =>
        rw [Nat.add_mod_right]
        exact h.fromRight more last (by simpa using hlast)

theorem inThrees_groupedDigits (n : Nat) : InThrees (groupedDigits n) := by
  fun_induction groupedDigits n with
  | case1 n hsmall => exact inThrees_digits hsmall
  | case2 n hlarge ih => exact ih.append (isDigit_digit _) (isDigit_digit _) (isDigit_digit _)

theorem withoutSign_eq {text : List Char} (h : InThrees text) : withoutSign text = text := by
  obtain ⟨first, rest, rfl, hdigit⟩ := h.head
  rw [withoutSign]
  rintro rest heq
  obtain rfl := (List.cons.inj heq).1
  exact (isDigit_ne hdigit).1 rfl

theorem isGrouped_grouped (n : Int) : IsGrouped (grouped n).toList n := by
  rw [grouped, String.toList_ofList]
  have hgroups := inThrees_groupedDigits n.natAbs
  have hvalue := integer?_signed (fun n => ⟨integer?_digits n, natural?_digits n⟩) n
  unfold signed at hvalue ⊢
  split
  · next hnegative =>
      rw [if_pos hnegative] at hvalue
      refine ⟨hgroups, ?_⟩
      have hcommas : withoutCommas ('-' :: groupedDigits n.natAbs) =
          '-' :: withoutCommas (groupedDigits n.natAbs) := rfl
      rwa [hcommas, withoutCommas_groupedDigits]
  · next hnegative =>
      rw [if_neg hnegative] at hvalue
      refine ⟨?_, ?_⟩
      · rwa [withoutSign_eq hgroups]
      · rwa [withoutCommas_groupedDigits]

/-- What numerals are made of. -/
def isNumeralChar (c : Char) : Bool :=
  c.isDigit || c = '-' || c = ','

theorem isNumeralChar_of_mem_signed {text : Nat → List Char} {n : Int} {c : Char}
    (h : ∀ c ∈ text n.natAbs, isNumeralChar c) (hc : c ∈ signed text n) : isNumeralChar c := by
  unfold signed at hc
  split at hc
  · rcases List.mem_cons.mp hc with rfl | hc
    · rfl
    · exact h c hc
  · exact h c hc

theorem isNumeralChar_of_mem_decimal {n : Int} {c : Char} (h : c ∈ (decimal n).toList) :
    isNumeralChar c := by
  rw [decimal, String.toList_ofList] at h
  refine isNumeralChar_of_mem_signed (fun c hc => ?_) h
  simp [isNumeralChar, isDigit_of_mem_digits hc]

theorem isNumeralChar_of_mem_grouped {n : Int} {c : Char} (h : c ∈ (grouped n).toList) :
    isNumeralChar c := by
  rw [grouped, String.toList_ofList] at h
  refine isNumeralChar_of_mem_signed (fun c hc => ?_) h
  have hdigits : c = ',' ∨ c ∈ withoutCommas (groupedDigits n.natAbs) := by
    rw [withoutCommas, List.mem_filter]
    by_cases hcomma : c = ','
    · exact .inl hcomma
    · exact .inr ⟨hc, by simpa using hcomma⟩
  rcases hdigits with rfl | hmem
  · rfl
  · rw [withoutCommas_groupedDigits] at hmem
    simp [isNumeralChar, isDigit_of_mem_digits hmem]

theorem mem_alignRight {width : Nat} {text : String} {c : Char}
    (h : c ∈ (alignRight width text).toList) : c = ' ' ∨ c ∈ text.toList := by
  rw [alignRight, String.toList_ofList, List.mem_append] at h
  exact h.imp_left List.eq_of_mem_replicate

theorem mem_alignLeft {width : Nat} {text : String} {c : Char}
    (h : c ∈ (alignLeft width text).toList) : c ∈ text.toList ∨ c = ' ' := by
  rw [alignLeft, String.toList_ofList, List.mem_append] at h
  exact h.imp_right List.eq_of_mem_replicate

end IndicatorWrap.Text
