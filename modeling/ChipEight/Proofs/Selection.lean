import ChipEight.Proofs.Decoding
set_option autoImplicit false
set_option relaxedAutoImplicit false

/-!
# Selection by digits

The operation of an instruction word can be selected digit by digit, without masks: the highest
digit comes first, and for some of the digits the rest of the word is looked at, the lowest digit of
it, the two lowest ones or all of it. This is the operation that the word is decoded to by the
families of the machine, in whatever order they are tried.

## Main definitions

* `ChipEight.Operation.restModulus` — how much of the rest is looked at behind a highest digit.
* `ChipEight.Operation.select` — the operation of a word, selected by digits.
* `ChipEight.selectInstruction` — the instruction of a word with the operation that is selected.

## Main results

* `ChipEight.select_of_contains`, `ChipEight.exists_family_of_select` — a word of a family has the
  operation of the family, and a word that has an operation belongs to a family.
* `ChipEight.decode_selects` — decoding is the selection by digits, in any order of the families.
-/

namespace ChipEight

namespace Operation

/-- What cuts a word to the part of it that is looked at behind its highest digit. -/
def restModulus : Nat → Nat
  | 0x0 => 0x1000
  | 0x5 | 0x8 | 0x9 => 0x10
  | 0xE | 0xF => 0x100
  | _ => 0x1

/-- The operation of a word, by its highest digit and the part of the rest that is looked at. Behind
the highest digit zero that is the whole rest, and so the whole word. -/
def ofDigits (top rest : Nat) : Operation :=
  match top with
  | 0x0 =>
    match rest with
    | 0x0E0 => clear
    | 0x0EE => ret
    | _ => unknown
  | 0x1 => jump
  | 0x2 => call
  | 0x3 => skipEqByte
  | 0x4 => skipNeByte
  | 0x5 =>
    match rest with
    | 0x0 => skipEq
    | _ => unknown
  | 0x6 => setByte
  | 0x7 => addByte
  | 0x8 =>
    match rest with
    | 0x0 => copy
    | 0x1 => or
    | 0x2 => and
    | 0x3 => xor
    | 0x4 => add
    | 0x5 => sub
    | 0x6 => shiftRight
    | 0x7 => subFrom
    | 0xE => shiftLeft
    | _ => unknown
  | 0x9 =>
    match rest with
    | 0x0 => skipNe
    | _ => unknown
  | 0xA => setIndex
  | 0xB => jumpOffset
  | 0xC => random
  | 0xD => draw
  | 0xE =>
    match rest with
    | 0x9E => skipDown
    | 0xA1 => skipUp
    | _ => unknown
  | 0xF =>
    match rest with
    | 0x07 => readDelay
    | 0x0A => awaitKey
    | 0x15 => setDelay
    | 0x18 => setSound
    | 0x1E => addIndex
    | 0x29 => pointGlyph
    | 0x33 => storeDigits
    | 0x55 => storeRegisters
    | 0x65 => loadRegisters
    | _ => unknown
  | _ => unknown

/-- The operation of a word, selected by digits. -/
def select (word : Nat) : Operation :=
  ofDigits (word / 0x1000) (word % restModulus (word / 0x1000))

end Operation

open Operation (restModulus ofDigits select)

/-! ## Families and digits -/

/-- What cuts a word to the digits that a mask keeps behind the highest one. -/
def Family.modulus (family : Family) : Nat := family.mask % 0x1000 + 1

/-- The mask of a family keeps the highest digit and what is looked at behind it, and the digits of
its value give its operation. -/
lemma Family.fits_select : ∀ family ∈ families,
    family.mask = 0xF000 + (family.modulus - 1) ∧ IsDigitModulus family.modulus ∧
      family.modulus = restModulus (family.value / 0x1000) ∧
      select family.value = family.operation := by
  decide

/-- A word belongs to a family if it has the digits of the family's value that are looked at. -/
lemma contains_iff_digits {family : Family} (hmem : family ∈ families) {word : Nat}
    (hword : word < 0x10000) :
    family.contains word = true ↔ word / 0x1000 = family.value / 0x1000 ∧
      word % restModulus (word / 0x1000) =
        family.value % restModulus (family.value / 0x1000) := by
  obtain ⟨hmask, hmodulus, hrest, -⟩ := Family.fits_select family hmem
  rw [Family.contains_iff_mod hmem hmask hmodulus hword, hrest]
  refine and_congr_right fun htop => ?_
  rw [htop]

/-- The operation of a family is selected for its words. -/
theorem select_of_contains {family : Family} (hmem : family ∈ families) {word : Nat}
    (hword : word < 0x10000) (hcontains : family.contains word = true) :
    select word = family.operation := by
  obtain ⟨htop, hrest⟩ := (contains_iff_digits hmem hword).1 hcontains
  obtain ⟨-, -, -, hselect⟩ := Family.fits_select family hmem
  rw [← hselect, select, select, hrest, htop]

/-- Wherever digits give an operation, there is a family with these digits. -/
lemma exists_family_of_digits {top rest : Nat} (hrest : rest < restModulus top)
    (h : ofDigits top rest ≠ .unknown) :
    ∃ family ∈ families, family.value / 0x1000 = top ∧ family.value % restModulus top = rest := by
  unfold ofDigits at h
  split at h
  -- Where the rest is looked at, each rest that gives an operation is the one of a family.
  case h_1 | h_6 | h_9 | h_10 | h_15 | h_16 =>
    split at h <;> first | exact absurd rfl h | decide
  case h_17 => exact absurd rfl h
  -- Where it is not, there is only one rest.
  all_goals
    obtain rfl : rest = 0 := Nat.lt_one_iff.1 hrest
    decide

/-- A word that is selected an operation belongs to a family. -/
theorem exists_family_of_select {word : Nat} (hword : word < 0x10000)
    (h : select word ≠ .unknown) : ∃ family ∈ families, family.contains word = true := by
  have hpos : 0 < restModulus (word / 0x1000) := by
    unfold restModulus
    split <;> decide
  obtain ⟨family, hmem, htop, hrest⟩ := exists_family_of_digits (Nat.mod_lt word hpos) h
  refine ⟨family, hmem, (contains_iff_digits hmem hword).2 ⟨htop.symm, ?_⟩⟩
  rw [htop, hrest]

/-- No family has the operation of the words that belong to none. -/
lemma Family.operation_ne_unknown : ∀ family ∈ families, family.operation ≠ .unknown := by
  decide

/-! ## Decoding -/

/-- The instruction of a word, with the operation that its digits select. Only the sixteen low bits
of the word count. -/
def selectInstruction (opcode : Int) : Instruction :=
  let word := (opcode % 0x10000).toNat
  ⟨select word, word, select word != .unknown⟩

/-- A word is decoded to the operation that its digits select. -/
theorem decode_eq_selectInstruction (opcode : Int) : decode opcode = selectInstruction opcode := by
  have hword : (opcode % 0x10000).toNat < 0x10000 := by omega
  rw [decode, decodeWith, selectInstruction]
  generalize (opcode % 0x10000).toNat = word at hword ⊢
  cases hfind : families.find? fun family => family.contains word with
  | some family =>
    have hmem := List.mem_of_find?_eq_some hfind
    have hcontains := List.find?_some hfind
    have hselect := select_of_contains hmem hword hcontains
    have hknown := Family.operation_ne_unknown family hmem
    simp [hselect, hknown]
  | none =>
    have hselect : select word = .unknown := by
      by_contra hknown
      obtain ⟨family, hmem, hcontains⟩ := exists_family_of_select hword hknown
      exact List.find?_eq_none.1 hfind family hmem hcontains
    simp [hselect]

/-- A word that belongs to a family is found in it, wherever it stands among the families. -/
lemma find?_of_contains {rows : List Family} (hrows : ∀ family, family ∈ rows ↔ family ∈ families)
    {family : Family} (hmem : family ∈ families) {word : Nat}
    (hcontains : family.contains word = true) :
    (rows.find? fun family => family.contains word) = some family := by
  cases hfind : rows.find? fun family => family.contains word with
  | none =>
    have hnone := List.find?_eq_none.1 hfind family ((hrows family).2 hmem)
    exact absurd hcontains hnone
  | some other =>
    have hother := (hrows other).1 (List.mem_of_find?_eq_some hfind)
    have hotherContains := List.find?_some hfind
    rw [Family.eq_of_contains hother hmem hotherContains hcontains]

/-- Families that are the same but for their order and number decode a word alike.

**Proof sketch.** A word that belongs to no family is found in neither list. One that belongs to a
family is found in this family by both, as no word belongs to two. -/
theorem decodeWith_eq_decode {rows : List Family}
    (hrows : ∀ family, family ∈ rows ↔ family ∈ families) (opcode : Int) :
    decodeWith rows opcode = decode opcode := by
  have hfind : ∀ word, (rows.find? fun family => family.contains word) =
      families.find? fun family => family.contains word := by
    intro word
    cases hfound : families.find? fun family => family.contains word with
    | none =>
      rw [List.find?_eq_none] at hfound ⊢
      intro family hmem
      exact hfound family ((hrows family).1 hmem)
    | some family =>
      have hcontains := List.find?_some hfound
      exact find?_of_contains hrows (List.mem_of_find?_eq_some hfound) hcontains
  rw [decode, decodeWith, decodeWith, hfind]

/-- A word is decoded to the operation that its digits select, and the order of the families makes
no difference.

**Proof sketch.** A word that belongs to a family has the digits that select the operation of the
family, and a word that belongs to none has digits that select none. As no word belongs to two
families, the first one that it is found in is the same in each order. -/
theorem decode_selects (opcode : Int) :
    decode opcode = selectInstruction opcode ∧
      ∀ rows : List Family, rows.Perm families → decodeWith rows opcode = decode opcode := by
  refine ⟨decode_eq_selectInstruction opcode, fun rows hperm => ?_⟩
  exact decodeWith_eq_decode (fun _ => hperm.mem_iff) opcode

/-- A shift to the right, looked for in the families from the last to the first. The third digit
of its word is not looked at. -/
theorem decode_selects_reverse :
    families.reverse.Perm families ∧
      decodeWith families.reverse 0x8AB6 = ⟨.shiftRight, 0x8AB6, true⟩ := by
  have hperm : families.reverse.Perm families := families.reverse_perm
  obtain ⟨hselect, hrows⟩ := decode_selects 0x8AB6
  refine ⟨hperm, ?_⟩
  rw [hrows families.reverse hperm, hselect]
  rfl

end ChipEight
