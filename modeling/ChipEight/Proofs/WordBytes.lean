import ChipEight.Cpu
import ChipEight.Instruction.Listing
import Mathlib.Tactic.Lemma
set_option autoImplicit false
set_option relaxedAutoImplicit false

/-!
# Listings and the bytes of their words

A listing keeps all of an image: its instruction words, written one after the other with the high
byte first, are the image, with a zero behind it if its length is odd. The other way round, words
that are written to an image are listed as they are. So nothing is lost in either direction, and an
image can be listed part by part, as long as no part ends in the middle of a word.

## Main definitions

* `ChipEight.bytesOfWord?` — the two bytes of a word.
* `ChipEight.bytesOfWords?` — the bytes of words, one after the other.

## Main results

* `ChipEight.bytesOfWords?_disassemble` — the words of a listing are the image.
* `ChipEight.disassemble_of_bytesOfWords?` — the listing of words that have been written.
* `ChipEight.disassemble_append` — a listing part by part.
* `ChipEight.disassemble_lossless` — listing loses nothing.
-/

namespace ChipEight

/-! ## The bytes of words -/

/-- The two bytes of a word, the high one first. A number that is not a word has none. -/
def bytesOfWord? (word : Int) : Option (List UInt8) :=
  if Cpu.IsWord word then
    some [UInt8.ofNat (word / 0x100).toNat, UInt8.ofNat (word % 0x100).toNat]
  else none

/-- The bytes of words, one after the other, if all of the numbers are words. -/
def bytesOfWords? : List Int → Option (List UInt8)
  | [] => some []
  | word :: rest => do
    let bytes ← bytesOfWord? word
    return bytes ++ (← bytesOfWords? rest)

/-- The bytes of a word are those that it is made of. -/
lemma bytesOfWord?_wordOfBytes (high low : UInt8) :
    bytesOfWord? (wordOfBytes high low) = some [high, low] := by
  have hhigh := high.toNat_lt
  have hlow := low.toNat_lt
  have hword := wordOfBytes_lt high low
  have hdiv : ((wordOfBytes high low : Int) / 0x100).toNat = high.toNat := by
    rw [wordOfBytes]
    omega
  have hmod : ((wordOfBytes high low : Int) % 0x100).toNat = low.toNat := by
    rw [wordOfBytes]
    omega
  rw [bytesOfWord?, if_pos ⟨by omega, by omega⟩, hdiv, hmod, UInt8.ofNat_toNat, UInt8.ofNat_toNat]

/-- Every word is made of two bytes. -/
lemma exists_eq_wordOfBytes {word : Int} (h : Cpu.IsWord word) :
    ∃ high low, word = wordOfBytes high low := by
  obtain ⟨h0, hlt⟩ := h
  refine ⟨UInt8.ofNat (word / 0x100).toNat, UInt8.ofNat (word % 0x100).toNat, ?_⟩
  rw [wordOfBytes, UInt8.toNat_ofNat', UInt8.toNat_ofNat']
  omega

/-- The bytes of a word come before those of the words behind it. -/
lemma bytesOfWords?_cons_wordOfBytes (high low : UInt8) (rest : List Int) :
    bytesOfWords? (wordOfBytes high low :: rest) =
      (bytesOfWords? rest).map fun bytes => high :: low :: bytes := by
  rw [bytesOfWords?, bytesOfWord?_wordOfBytes]
  cases bytesOfWords? rest <;> rfl

/-- A word that is made of two bytes is decoded as it is. -/
lemma opcode_decode_wordOfBytes (high low : UInt8) :
    (decode (wordOfBytes high low)).opcode = wordOfBytes high low := by
  have hword := wordOfBytes_lt high low
  rw [decode_opcode]
  omega

/-! ## Listings -/

/-- The addresses of a listing, one for every two bytes, rounded up. -/
lemma map_fst_disassemble (image : List UInt8) (origin : Int) :
    (disassemble image origin).map Prod.fst =
      (List.range ((image.length + 1) / 2)).map fun k : Nat => origin + 2 * k := by
  apply List.ext_getElem?
  intro k
  rw [List.getElem?_map, getElem?_disassemble, List.getElem?_map]
  by_cases hk : 2 * k < image.length
  · rw [if_pos hk, List.getElem?_range (by omega)]
    rfl
  · rw [if_neg hk, List.getElem?_eq_none (by rw [List.length_range]; omega)]
    rfl

/-- The words of a listing are the image, with a zero behind it if its length is odd. -/
theorem bytesOfWords?_disassemble (image : List UInt8) (origin : Int) :
    bytesOfWords? ((disassemble image origin).map fun entry => entry.2.opcode) =
      some (image ++ if image.length % 2 = 1 then [0] else []) := by
  fun_induction disassemble image origin with
  | case1 => rfl
  | case2 origin high =>
    rw [List.map_singleton, opcode_decode_wordOfBytes, bytesOfWords?_cons_wordOfBytes]
    rfl
  | case3 origin high low rest ih =>
    have hlength : (high :: low :: rest).length % 2 = rest.length % 2 := by
      rw [List.length_cons, List.length_cons]
      omega
    rw [List.map_cons, opcode_decode_wordOfBytes, bytesOfWords?_cons_wordOfBytes, ih, hlength]
    rfl

/-- Words that have been written are listed in their order. -/
theorem disassemble_of_bytesOfWords? (words : List Int) (h : ∀ word ∈ words, Cpu.IsWord word) :
    ∃ image, bytesOfWords? words = some image ∧
      ∀ origin, (disassemble image origin).map Prod.snd = words.map decode := by
  induction words with
  | nil => exact ⟨[], rfl, fun _ => rfl⟩
  | cons word rest ih =>
    obtain ⟨hword, hrest⟩ := List.forall_mem_cons.1 h
    obtain ⟨high, low, rfl⟩ := exists_eq_wordOfBytes hword
    obtain ⟨image, himage, hlisted⟩ := ih hrest
    refine ⟨high :: low :: image, ?_, fun origin => ?_⟩
    · rw [bytesOfWords?_cons_wordOfBytes, himage]
      rfl
    · rw [disassemble, List.map_cons, List.map_cons, hlisted]

/-- A part of an even length and what comes behind it are listed one after the other. -/
theorem disassemble_append (first second : List UInt8) (origin : Int)
    (heven : first.length % 2 = 0) :
    disassemble (first ++ second) origin =
      disassemble first origin ++ disassemble second (origin + first.length) := by
  fun_induction disassemble first origin with
  | case1 => simp
  | case2 => cases heven
  | case3 origin high low rest ih =>
    rw [List.length_cons, List.length_cons] at heven
    have hstart : origin + 2 + (rest.length : Int) = origin + (rest.length + 1 + 1 : Nat) := by
      omega
    rw [List.cons_append, List.cons_append, disassemble, ih (by omega), List.length_cons,
      List.length_cons, hstart]
    rfl

/-- **Listing loses nothing.** Every image is listed under the addresses of its words, and the words
of the listing are the image, with a zero behind it if its length is odd. All words can be written,
and then they are listed as they are. And the listing of an image is that of any first part of an
even length, followed by that of the rest.

**Proof sketch.** Each part is an induction on the words of the image, two bytes at a time. That a
word and its two bytes determine each other is the base of both round trips. -/
theorem disassemble_lossless :
    (∀ (image : List UInt8) (origin : Int),
      (disassemble image origin).map Prod.fst =
        ((List.range ((image.length + 1) / 2)).map fun k : Nat => origin + 2 * k) ∧
      bytesOfWords? ((disassemble image origin).map fun entry => entry.2.opcode) =
        some (image ++ if image.length % 2 = 1 then [0] else [])) ∧
    (∀ words : List Int, (∀ word ∈ words, Cpu.IsWord word) →
      ∃ image, bytesOfWords? words = some image ∧
        ∀ origin, (disassemble image origin).map Prod.snd = words.map decode) ∧
    ∀ (first second : List UInt8) (origin : Int), first.length % 2 = 0 →
      disassemble (first ++ second) origin =
        disassemble first origin ++ disassemble second (origin + first.length) := by
  refine ⟨fun image origin => ⟨?_, ?_⟩, ?_, ?_⟩
  · exact map_fst_disassemble image origin
  · exact bytesOfWords?_disassemble image origin
  · exact disassemble_of_bytesOfWords?
  · exact disassemble_append

/-- Two words that are written and then listed, and an image of three bytes that is listed in two
parts, with the last byte alone in the second one. -/
theorem disassemble_lossless_threeBytes :
    (∀ word ∈ [(0x8126 : Int), 0x00E0], Cpu.IsWord word) ∧
      (∃ image, bytesOfWords? [0x8126, 0x00E0] = some image ∧
        (disassemble image 0x200).map Prod.snd = [decode 0x8126, decode 0x00E0]) ∧
      disassemble ([0x81, 0x26] ++ [0x6A]) (-1) =
        disassemble [0x81, 0x26] (-1) ++ disassemble [0x6A] 1 := by
  have hwords : ∀ word ∈ [(0x8126 : Int), 0x00E0], Cpu.IsWord word := by decide
  obtain ⟨image, himage, hlisted⟩ := disassemble_lossless.2.1 _ hwords
  refine ⟨hwords, ⟨image, himage, hlisted 0x200⟩, ?_⟩
  exact disassemble_lossless.2.2 [0x81, 0x26] [0x6A] (-1) rfl

end ChipEight
