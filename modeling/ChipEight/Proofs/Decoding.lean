import ChipEight.Instruction.Decode
import Mathlib.Data.List.Pairwise
import Mathlib.Tactic.Lemma
set_option autoImplicit false
set_option relaxedAutoImplicit false

/-!
# Families and digits

The masks of the families keep whole hexadecimal digits of an instruction word: the highest digit,
and with it none or some of the others from the lowest one on. So a word belongs to a family if
these digits are the ones of the family.

No word belongs to two families, and no two families share an operation. So the operation that a
word is decoded to tells its family, whatever the order of the families.

## Main definitions

* `ChipEight.Family.Excludes` — two families whose values differ at a place that both masks keep.
* `ChipEight.wordOfDigits` — the word of four digits.
* `ChipEight.IsDigitModulus` — what cuts a word to some of its lowest digits.

## Main results

* `ChipEight.Family.eq_of_contains` — no word belongs to two families.
* `ChipEight.operation_decode_iff` — a word is decoded to the operation of a family exactly if it
  belongs to the family.
* `ChipEight.operation_decode_iff_mod` — the same in terms of the digits of the word.
-/

namespace ChipEight

namespace Family

/-! ## Families exclude each other -/

/-- Two families exclude each other if their values differ at a place that both masks keep. -/
def Excludes (first second : Family) : Prop :=
  first.value &&& second.mask ≠ second.value &&& first.mask

instance (first second : Family) : Decidable (first.Excludes second) :=
  inferInstanceAs (Decidable (_ ≠ _))

instance : Std.Symm Excludes := ⟨fun _ _ h => h.symm⟩

/-- A family contains the words that have its value under its mask. -/
lemma contains_iff (family : Family) (word : Nat) :
    family.contains word = true ↔ word &&& family.mask = family.value := by
  rw [contains, beq_iff_eq]

/-- A word does not belong to two families that exclude each other. -/
lemma not_excludes_of_contains {first second : Family} {word : Nat}
    (hfirst : first.contains word = true) (hsecond : second.contains word = true) :
    ¬first.Excludes second := by
  rw [contains_iff] at hfirst hsecond
  rw [Excludes, not_not, ← hfirst, ← hsecond, Nat.and_assoc, Nat.and_assoc,
    Nat.and_comm first.mask]

/-- The families of the machine exclude each other. -/
lemma pairwise_excludes : families.Pairwise Excludes := by decide

/-- No word belongs to two families. -/
theorem eq_of_contains {first second : Family} (hfirst : first ∈ families)
    (hsecond : second ∈ families) {word : Nat} (hcontains : first.contains word = true)
    (hother : second.contains word = true) : first = second := by
  apply Classical.byContradiction
  intro hne
  have hexcludes := pairwise_excludes.forall hfirst hsecond hne
  exact not_excludes_of_contains hcontains hother hexcludes

/-- No two families share an operation. -/
lemma eq_of_operation_eq : ∀ first ∈ families, ∀ second ∈ families,
    first.operation = second.operation → first = second := by
  decide +kernel

end Family

/-! ## The operation of a word -/

/-- A word is decoded to the operation of a family exactly if it belongs to the family.

**Proof sketch.** The word is decoded by a family that it belongs to. If it belongs to the given
family, then it is this one, since no word belongs to two; if the operation is that of the given
family, then it is this one, since no operation belongs to two. -/
theorem operation_decode_iff {family : Family} (hmem : family ∈ families) (opcode : Int) :
    (decode opcode).operation = family.operation ↔
      family.contains (opcode % 0x10000).toNat = true := by
  have hknown : Operation.unknown ∉ families.map Family.operation := by decide
  rw [decode, decodeWith]
  cases hfind : families.find? fun family => family.contains (opcode % 0x10000).toNat with
  | none =>
    constructor
    · intro hunknown
      exact absurd (List.mem_map.2 ⟨family, hmem, hunknown.symm⟩) hknown
    · intro hcontains
      exact absurd hcontains (List.find?_eq_none.1 hfind family hmem)
  | some found =>
    have hfound := List.find?_some hfind
    have hfoundMem := List.mem_of_find?_eq_some hfind
    constructor
    · intro hoperation
      rwa [← Family.eq_of_operation_eq found hfoundMem family hmem hoperation]
    · intro hcontains
      rw [Family.eq_of_contains hfoundMem hmem hfound hcontains]

/-! ## Digits -/

/-- The word of four hexadecimal digits, the highest first. -/
def wordOfDigits (top x y low : Nat) : Nat :=
  top * 0x1000 + x * 0x100 + y * 0x10 + low

section Fields

variable {word : Nat}

/-- A word of sixteen bits is kept as it is. -/
lemma opcode_decode_of_lt (hword : word < 0x10000) : (decode word).opcode = word := by
  rw [decode_opcode]
  omega

/-- The second digit of a word names the first register. -/
lemma x_decode_of_lt (hword : word < 0x10000) :
    (decode word).x = ⟨word / 0x100 % 0x10, Nat.mod_lt _ (by decide)⟩ := by
  rw [Instruction.x, Fin.mk.injEq, opcode_decode_of_lt hword]
  omega

/-- The third digit of a word names the second register. -/
lemma y_decode_of_lt (hword : word < 0x10000) :
    (decode word).y = ⟨word / 0x10 % 0x10, Nat.mod_lt _ (by decide)⟩ := by
  rw [Instruction.y, Fin.mk.injEq, opcode_decode_of_lt hword]
  omega

/-- The nibble of a decoded word is its last hexadecimal digit. -/
lemma nibble_decode_of_lt (hword : word < 0x10000) : (decode word).nibble = word % 0x10 := by
  rw [Instruction.nibble, opcode_decode_of_lt hword]
  omega

/-- The byte of a decoded word is its last two hexadecimal digits. -/
lemma toNat_byte_decode_of_lt (hword : word < 0x10000) :
    (decode word).byte.toNat = word % 0x100 := by
  rw [Instruction.toNat_byte, opcode_decode_of_lt hword]
  omega

/-- The address of a decoded word is its last three hexadecimal digits. -/
lemma address_decode_of_lt (hword : word < 0x10000) :
    ((decode word).address : Int) = word % 0x1000 := by
  rw [Instruction.address, opcode_decode_of_lt hword]
  omega

end Fields

section Digits

variable {top x y low : Nat}

/-- Four hexadecimal digits make a word of sixteen bits. -/
lemma wordOfDigits_lt (htop : top < 16) (hx : x < 16) (hy : y < 16) (hlow : low < 16) :
    wordOfDigits top x y low < 0x10000 := by
  rw [wordOfDigits]
  omega

/-- The first register of a word is its second digit. -/
lemma x_decode (htop : top < 16) (x : Fin 16) (hy : y < 16) (hlow : low < 16) :
    (decode (wordOfDigits top x y low)).x = x := by
  rw [x_decode_of_lt (wordOfDigits_lt htop x.isLt hy hlow), Fin.ext_iff, wordOfDigits]
  dsimp only
  omega

/-- The second register of a word is its third digit. -/
lemma y_decode (htop : top < 16) (hx : x < 16) (y : Fin 16) (hlow : low < 16) :
    (decode (wordOfDigits top x y low)).y = y := by
  rw [y_decode_of_lt (wordOfDigits_lt htop hx y.isLt hlow), Fin.ext_iff, wordOfDigits]
  dsimp only
  omega

/-- The nibble of a word is its last digit. -/
lemma nibble_decode (htop : top < 16) (hx : x < 16) (hy : y < 16) (hlow : low < 16) :
    (decode (wordOfDigits top x y low)).nibble = low := by
  rw [nibble_decode_of_lt (wordOfDigits_lt htop hx hy hlow), wordOfDigits]
  omega

/-- The byte of a word is its last two digits. -/
lemma toNat_byte_decode (htop : top < 16) (hx : x < 16) (hy : y < 16) (hlow : low < 16) :
    (decode (wordOfDigits top x y low)).byte.toNat = y * 0x10 + low := by
  rw [toNat_byte_decode_of_lt (wordOfDigits_lt htop hx hy hlow), wordOfDigits]
  omega

end Digits

/-- A modulus that cuts a word to some of its lowest digits, but not to all four. -/
def IsDigitModulus (modulus : Nat) : Prop :=
  modulus ∈ [0x1, 0x10, 0x100, 0x1000]

instance (modulus : Nat) : Decidable (IsDigitModulus modulus) :=
  inferInstanceAs (Decidable (_ ∈ _))

/-- A modulus that cuts a word to some of its lowest digits lies between 1 and `0x1000`. -/
lemma IsDigitModulus.bounds {modulus : Nat} (h : IsDigitModulus modulus) :
    0 < modulus ∧ modulus ≤ 0x1000 := by
  simp only [IsDigitModulus, List.mem_cons, List.not_mem_nil, or_false] at h
  omega

/-- A mask that keeps the highest digit of a word and some of the lowest ones. -/
lemma and_mask {word modulus : Nat} (hword : word < 0x10000) (hmodulus : IsDigitModulus modulus) :
    word &&& (0xF000 + (modulus - 1)) = word / 0x1000 * 0x1000 + word % modulus := by
  have hpower : ∃ bits ≤ 12, modulus = 2 ^ bits := by
    simp only [IsDigitModulus, List.mem_cons, List.not_mem_nil, or_false] at hmodulus
    rcases hmodulus with rfl | rfl | rfl | rfl
    · exact ⟨0, by decide, rfl⟩
    · exact ⟨4, by decide, rfl⟩
    · exact ⟨8, by decide, rfl⟩
    · exact ⟨12, by decide, rfl⟩
  obtain ⟨bits, hbits, rfl⟩ := hpower
  have hpow : 2 ^ bits ≤ 2 ^ 12 := Nat.pow_le_pow_right (by decide) hbits
  have hpos : 0 < 2 ^ bits := Nat.two_pow_pos bits
  have hhigh : (word &&& (0xF000 + (2 ^ bits - 1))) / 2 ^ 12 = word / 2 ^ 12 := by
    have hmask : (0xF000 + (2 ^ bits - 1)) / 2 ^ 12 = 2 ^ 4 - 1 := by omega
    rw [Nat.and_div_two_pow, hmask, Nat.and_two_pow_sub_one_eq_mod]
    omega
  have hlow : (word &&& (0xF000 + (2 ^ bits - 1))) % 2 ^ 12 = word % 2 ^ bits := by
    have hmask : (0xF000 + (2 ^ bits - 1)) % 2 ^ 12 = 2 ^ bits - 1 := by omega
    rw [Nat.and_mod_two_pow, hmask, Nat.and_two_pow_sub_one_eq_mod,
      Nat.mod_mod_of_dvd _ (Nat.pow_dvd_pow 2 hbits)]
  omega

/-- The values of the families have no bits but those that the masks keep. -/
lemma Family.value_and_mask : ∀ family ∈ families,
    family.value < 0x10000 ∧ family.value &&& family.mask = family.value := by
  decide

/-- A word belongs to a family whose mask keeps the highest digit and some of the lowest ones
exactly if these are the ones of the family. -/
lemma Family.contains_iff_mod {family : Family} (hmem : family ∈ families) {modulus : Nat}
    (hmask : family.mask = 0xF000 + (modulus - 1)) (hmodulus : IsDigitModulus modulus) {word : Nat}
    (hword : word < 0x10000) :
    family.contains word = true ↔
      word / 0x1000 = family.value / 0x1000 ∧ word % modulus = family.value % modulus := by
  obtain ⟨hpos, hle⟩ := hmodulus.bounds
  have hlow : word % modulus < modulus := Nat.mod_lt _ hpos
  have hvalueLow : family.value % modulus < modulus := Nat.mod_lt _ hpos
  obtain ⟨hvalue, hkept⟩ := Family.value_and_mask family hmem
  rw [hmask, and_mask hvalue hmodulus] at hkept
  rw [contains_iff, hmask, and_mask hword hmodulus]
  omega

/-- A word is decoded to the operation of a family whose mask keeps the highest digit and some of
the lowest ones exactly if these are the ones of the family. -/
theorem operation_decode_iff_mod (modulus value : Nat) (operation : Operation)
    (hmem : ⟨0xF000 + (modulus - 1), value, operation⟩ ∈ families)
    (hmodulus : IsDigitModulus modulus) {word : Nat} (hword : word < 0x10000) :
    (decode word).operation = operation ↔
      word / 0x1000 = value / 0x1000 ∧ word % modulus = value % modulus := by
  have hcast : ((word : Int) % 0x10000).toNat = word := by omega
  rw [operation_decode_iff hmem, hcast]
  exact Family.contains_iff_mod hmem rfl hmodulus hword

section Digits

variable {top x y low : Nat} {operation : Operation}

/-- The operation of a word whose family is told by the highest digit. -/
lemma operation_decode_of_top (hmem : ⟨0xF000, top * 0x1000, operation⟩ ∈ families)
    (htop : top < 16) (hx : x < 16) (hy : y < 16) (hlow : low < 16) :
    (decode (wordOfDigits top x y low)).operation = operation := by
  rw [operation_decode_iff_mod 0x1 _ _ hmem (by decide) (wordOfDigits_lt htop hx hy hlow),
    wordOfDigits]
  omega

/-- The operation of a word whose family is told by the highest digit and the lowest one. -/
lemma operation_decode_of_top_low (hmem : ⟨0xF00F, top * 0x1000 + low, operation⟩ ∈ families)
    (htop : top < 16) (hx : x < 16) (hy : y < 16) (hlow : low < 16) :
    (decode (wordOfDigits top x y low)).operation = operation := by
  rw [operation_decode_iff_mod 0x10 _ _ hmem (by decide) (wordOfDigits_lt htop hx hy hlow),
    wordOfDigits]
  omega

/-- The operation of a word whose family is told by the highest digit and the two lowest ones. -/
lemma operation_decode_of_top_byte
    (hmem : ⟨0xF0FF, top * 0x1000 + (y * 0x10 + low), operation⟩ ∈ families)
    (htop : top < 16) (hx : x < 16) (hy : y < 16) (hlow : low < 16) :
    (decode (wordOfDigits top x y low)).operation = operation := by
  rw [operation_decode_iff_mod 0x100 _ _ hmem (by decide) (wordOfDigits_lt htop hx hy hlow),
    wordOfDigits]
  omega

end Digits

end ChipEight
