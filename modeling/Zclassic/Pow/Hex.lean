import Zclassic.Pow.RandomX

/-!
# What `uint256S` Reads

`uint256S` turns text into a 256-bit value: `GetHardcodedManifest` reads each chunk's hash
with it, and `CheckRandomXProofOfWork` reads the RandomX output with it. `base_blob::SetHex`
skips whitespace and a `0x`, takes the run of hexadecimal digits that follows, and fills the
blob two digits to a byte from the last digit back, stopping after 32 bytes.

So after any whitespace and an optional `0x` or `0X`, a run of digits in either case, ended by
the terminator or by any byte that is neither a digit nor an `x`, reads as the number it
spells modulo `2^256`: of more than 64 digits only the last 64 count (`uint256S_digits`). The
`x` matters only after a lone `0`, which the parser would take for the prefix.

## Main definitions

* `digitsValue`: The number hexadecimal digits spell, least significant first.

## Theorems

* `leValue_hexFill`: The fill loop keeps the value of the last `2 * WIDTH` digits.
* `takeWhile_digits`: The run of digits ends at the first byte that is not one.
* `uint256S_digits`: A run of hexadecimal digits reads as the number it spells.
-/

namespace Zclassic

namespace Pow

/-- The number that hexadecimal digit values spell, given least significant first. -/
def digitsValue : List Nat → Nat
  | [] => 0
  | d :: ds => d + 16 * digitsValue ds

theorem hexDigit_lt {c : UInt8} {d : Nat} (h : hexDigit c = some d) : d < 16 := by
  have hc := c.toNat_lt_size
  unfold hexDigit at h
  split_ifs at h with h₁ h₂ h₃ <;> cases h
  · have : c.toNat ≤ 57 := h₁.2; omega
  · have : c.toNat ≤ 102 := h₂.2; omega
  · have : c.toNat ≤ 70 := h₃.2; omega

/-- Every hexadecimal digit is at least `0`, so none is whitespace. -/
theorem isSpace_of_hexDigit {c : UInt8} (h : (hexDigit c).isSome) : isSpace c = false := by
  have h48 : 48 ≤ c.toNat := by
    unfold hexDigit at h
    split_ifs at h with h₁ h₂ h₃
    · exact h₁.1
    · exact le_trans (by decide) h₂.1
    · exact le_trans (by decide) h₃.1
    · cases h
  have h32 : c ≠ 32 := by rintro rfl; exact absurd h48 (by decide)
  have h13 : ¬c ≤ 13 := fun h => by have : c.toNat ≤ 13 := h; omega
  simp [isSpace, h32, h13]

/-- Two digit values in one byte, the earlier digit in the high nibble. -/
theorem or_shiftLeft_four {lo hi : Nat} (hlo : lo < 16) : (lo ||| hi <<< 4) = lo + 16 * hi := by
  rw [Nat.shiftLeft_eq, Nat.lor_comm, Nat.mul_comm hi, ← Nat.mul_add_lt_is_or hlo]
  omega

/-- The fill loop keeps the value of the last `2 * w` digits: the value of all of them
    modulo `2^(8 * w)`. -/
theorem leValue_hexFill : ∀ (w : Nat) (l : List Nat), (∀ d ∈ l, d < 16) →
    leValue (hexFill w l) = digitsValue l % 2 ^ (8 * w)
  | 0, l, _ => by simp [hexFill, leValue, Nat.mod_one]
  | _ + 1, [], _ => by simp [hexFill, leValue, digitsValue]
  | w + 1, [lo], hl => by
    have := hl lo (.head _)
    have : 16 ≤ 2 ^ (8 * (w + 1)) :=
      le_trans (by decide) (Nat.pow_le_pow_right (by decide) (show 4 ≤ 8 * (w + 1) by omega))
    simp only [hexFill, leValue, digitsValue, Nat.mul_zero, Nat.add_zero]
    exact (Nat.mod_eq_of_lt (by omega)).symm
  | w + 1, lo :: hi :: rest, hl => by
    have hlo := hl lo (.head _)
    have hhi := hl hi (.tail _ (.head _))
    have ih := leValue_hexFill w rest fun d hd => hl d (.tail _ (.tail _ hd))
    simp only [hexFill, leValue, digitsValue, or_shiftLeft_four hlo, ih]
    -- The low byte is the first two digits, and the rest is what lies above it.
    have hlow : (lo + 16 * (hi + 16 * digitsValue rest)) % 2 ^ 8 = lo + 16 * hi := by omega
    have hhigh : (lo + 16 * (hi + 16 * digitsValue rest)) / 2 ^ 8 = digitsValue rest := by omega
    rw [show 8 * (w + 1) = 8 + 8 * w by omega, Nat.pow_add, Nat.mod_mul, hlow, hhigh]

/-- The run of digits ends where `rest` begins. -/
theorem takeWhile_digits {ds rest : List UInt8} (hds : ∀ c ∈ ds, (hexDigit c).isSome)
    (hrest : ∀ c ∈ rest.head?, hexDigit c = none) :
    (ds ++ rest).takeWhile (fun c => (hexDigit c).isSome) = ds := by
  rw [List.takeWhile_append_of_pos hds]
  cases rest with
  | nil => simp
  | cons r rs => simp [List.takeWhile_cons_of_neg, hrest r rfl]

/-- What the fill loop makes of a run of digits, read as a 256-bit value. -/
theorem ofNat_leValue_hexFill (ds : List UInt8) :
    BitVec.ofNat 256 (leValue (hexFill 32 (ds.filterMap hexDigit).reverse)) =
      BitVec.ofNat 256 (digitsValue (ds.filterMap hexDigit).reverse) := by
  have hvals : ∀ d ∈ (ds.filterMap hexDigit).reverse, d < 16 := by
    intro d hd
    obtain ⟨a, -, ha⟩ := List.mem_filterMap.mp (List.mem_reverse.mp hd)
    exact hexDigit_lt ha
  rw [leValue_hexFill 32 _ hvals]
  exact BitVec.eq_of_toNat_eq (by simp)

/-- Whitespace, then an optional `0x` or `0X`, then a nonempty run of hexadecimal digits in
    either case, ended by the end of the string or by a byte that is neither a digit nor an `x`:
    the string reads as the number the digits spell, modulo `2^256`. -/
theorem uint256S_digits {sp pre ds rest : List UInt8} (hsp : ∀ c ∈ sp, isSpace c)
    (hpre : pre = [] ∨ pre = [48, 120] ∨ pre = [48, 88]) (hne : ds ≠ [])
    (hds : ∀ c ∈ ds, (hexDigit c).isSome)
    (hrest : ∀ c ∈ rest.head?, hexDigit c = none ∧ c ≠ 120 ∧ c ≠ 88) :
    uint256S (sp ++ pre ++ ds ++ rest) =
      BitVec.ofNat 256 (digitsValue (ds.filterMap hexDigit).reverse) := by
  obtain ⟨c, ds', rfl⟩ := List.exists_cons_of_ne_nil hne
  have hc := hds c (.head _)
  have htake := takeWhile_digits hds fun r hr => (hrest r hr).1
  unfold uint256S
  rw [List.append_assoc, List.append_assoc, List.dropWhile_append_of_pos hsp]
  rcases hpre with rfl | rfl | rfl
  case inr.inl | inr.inr =>
    simp only [List.cons_append, List.nil_append,
      List.dropWhile_cons_of_neg (show ¬isSpace 48 = true by decide)]
    rw [if_pos (by decide), ← List.cons_append, htake]
    exact ofNat_leValue_hexFill _
  -- No `0x`: the second byte is a digit, or the byte that ends the run.
  have hnox : ∀ x r, ds' ++ rest = x :: r → x ≠ 120 ∧ x ≠ 88 := by
    intro x r hx
    cases ds' with
    | nil => exact (hrest x (by rw [List.nil_append] at hx; rw [hx]; rfl)).2
    | cons d ds'' =>
      obtain ⟨rfl, -⟩ := List.cons.inj hx
      have hd := hds _ (.tail _ (.head _))
      constructor <;> rintro rfl <;> exact absurd hd (by decide)
  rw [List.nil_append, List.cons_append,
    List.dropWhile_cons_of_neg (by simp [isSpace_of_hexDigit hc])]
  dsimp only
  split
  · next c' x r heq =>
    obtain ⟨rfl, hxr⟩ := List.cons.inj heq
    obtain ⟨h120, h88⟩ := hnox x r hxr
    rw [if_neg fun h => h.2.elim h120 h88, ← List.cons_append, htake]
    exact ofNat_leValue_hexFill _
  · rw [← List.cons_append, htake]
    exact ofNat_leValue_hexFill _

/-- `0x0f` after a space, ended by the terminator, reads as fifteen. -/
theorem uint256S_digits_zero_f :
    (∀ c ∈ ([32] : List UInt8), isSpace c) ∧
    (([48, 120] : List UInt8) = [] ∨ ([48, 120] : List UInt8) = [48, 120] ∨
      ([48, 120] : List UInt8) = [48, 88]) ∧
    ([48, 102] : List UInt8) ≠ [] ∧ (∀ c ∈ ([48, 102] : List UInt8), (hexDigit c).isSome) ∧
    (∀ c ∈ ([0] : List UInt8).head?, hexDigit c = none ∧ c ≠ 120 ∧ c ≠ 88) ∧
    uint256S ([32] ++ [48, 120] ++ [48, 102] ++ [0]) =
      BitVec.ofNat 256 (digitsValue (([48, 102] : List UInt8).filterMap hexDigit).reverse) :=
  ⟨by decide, by decide, by decide, by decide, by decide,
    uint256S_digits (by decide) (by decide) (by decide) (by decide) (by decide)⟩

end Pow

end Zclassic
