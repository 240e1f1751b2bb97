import ChipEight.Memory.Change
import Mathlib.Data.List.Induction
import Mathlib.Tactic.Lemma
set_option autoImplicit false
set_option relaxedAutoImplicit false

/-!
# What a memory holds

After any changes of a blank memory, each byte is the one that the last change has put there that
was made and covers its address, and zero if there is none. A change is made as a whole or not at
all, and whether it is made depends on its addresses and numbers only. Reading gives exactly these
bytes, and it is refused exactly if it covers an address outside the memory.

The changes are taken cell by cell. Each one agrees with its form as a whole.

## Main definitions

* `ChipEight.Memory.change` — a change as a whole.
* `ChipEight.Memory.Change.IsAllowed` — the changes that are made.
* `ChipEight.Memory.Change.number?` — the number that a change puts at an address.
* `ChipEight.Memory.lastPut` — the number that was put at an address last.
* `ChipEight.Memory.Reflects` — the laws of a memory that has been changed.

## Main results

* `ChipEight.Memory.Access.on_make` — cell by cell, a change is made as a whole or not at all.
* `ChipEight.Memory.change_eq_ok_iff` — which changes are made, and what they leave behind.
* `ChipEight.Memory.reflects_changed` — the laws hold after any changes of a blank memory.
-/

namespace ChipEight

namespace Memory

/-- An address of the memory. -/
def IsAddress (address : Int) : Prop := 0 ≤ address ∧ address < 4096

/-- A number that is a byte. -/
def IsByte (value : Int) : Prop := 0 ≤ value ∧ value < 256

instance (address : Int) : Decidable (IsAddress address) := inferInstanceAs (Decidable (_ ∧ _))

instance (value : Int) : Decidable (IsByte value) := inferInstanceAs (Decidable (_ ∧ _))

/-! ## Changes as a whole -/

/-- The outcome of a change that is made as a whole or not at all. -/
def settle (memory : Memory) : Except Error Memory → Except Error Unit × Memory
  | .ok after => (.ok (), after)
  | .error cause => (.error cause, memory)

/-- A change as a whole. -/
def change (memory : Memory) : Change → Except Error Memory
  | .write address value => memory.write address value
  | .load values address => memory.load values address
  | .loadFont => .ok memory.withFont
  | .loadImage image => memory.loadImage image
  | .reset => .ok blank

/-- Zeroing one cell after the other leaves a blank memory. -/
lemma overlay_zeros (memory : Memory) : memory.overlay 0 (List.replicate 4096 0) = blank := by
  have hlength : 0 + (List.replicate 4096 (0 : UInt8)).length ≤ 4096 :=
    Nat.le_of_eq (by rw [Nat.zero_add, List.length_replicate])
  apply eq_of_get_eq
  intro position hposition
  rw [get_overlay _ _ _ _ hlength, get_blank, if_pos (Nat.zero_le _), Nat.sub_zero,
    List.getElem?_replicate, if_pos hposition, Option.getD_some]

/-- The numbers of the font are copied to the start of the memory. -/
lemma load_font (memory : Memory) :
    memory.load (font.map fun value => (value.toNat : Int)) 0 = .ok memory.withFont := by
  have hlength : (0 : Int) + font.length ≤ 4096 := by
    rw [length_font]
    decide
  rw [load_toNat, store_of_fit _ (Int.le_refl 0) hlength]
  rfl

namespace Access

variable {α β : Type}

/-- A refusal leaves the memory alone. -/
@[simp] lemma on_throw (cause : Error) (memory : Memory) :
    (throw cause : Access α).on memory = (.error cause, memory) := rfl

/-- A byte is put at its place. -/
@[simp] lemma on_put (position : Nat) (value : UInt8) (memory : Memory) :
    (put position value).on memory = (.ok (), memory.set position value) := rfl

/-- A computation goes on from where the computation before it has ended. -/
@[simp] lemma on_bind (access : Access α) (next : α → Access β) (memory : Memory) :
    (access >>= next : Access β).on memory =
      match access.on memory with
      | (.ok value, after) => (next value).on after
      | (.error cause, after) => (.error cause, after) := by
  change (match access memory with
    | (outcome, after) => ExceptT.bindCont next outcome after) =
    match access memory with
    | (.ok value, after) => (next value).on after
    | (.error cause, after) => (.error cause, after)
  rcases access memory with ⟨outcome, after⟩
  cases outcome <;> rfl

/-- A check leaves the memory alone. -/
@[simp] lemma on_check (result : Except Error α) (memory : Memory) :
    (check result).on memory = (result, memory) := by
  cases result <;> rfl

/-- Bytes that are copied one by one are those of the block as a whole. -/
@[simp] lemma on_copy (values : List UInt8) :
    ∀ (position : Nat) (memory : Memory),
      (copy position values).on memory = (.ok (), memory.overlay position values) := by
  induction values with
  | nil =>
    intro position memory
    rfl
  | cons value rest ih =>
    intro position memory
    rw [copy, on_bind, on_put]
    exact ih _ _

/-- A block that is loaded in steps is loaded as a whole or not at all. -/
@[simp] lemma on_load (values : List Int) (address : Int) (memory : Memory) :
    (load values address).on memory = memory.settle (memory.load values address) := by
  rw [load, Memory.load]
  cases hbytes : bytesOfValues values with
  | error cause => rfl
  | ok bytes =>
    by_cases hfit : address < 0 ∨ 4096 < address + bytes.length
    · simp [store, hfit, settle]
    · simp [store, hfit, settle]

/-- A change is made as a whole or not at all: all its checks come before the first cell is set. -/
theorem on_make (change : Change) (memory : Memory) :
    change.make.on memory = memory.settle (memory.change change) := by
  cases change with
  | write address value =>
    rw [Change.make, write, Memory.change, Memory.write]
    cases hlocate : locate address with
    | error cause => rfl
    | ok position => rfl
  | load values address => exact on_load values address memory
  | loadFont =>
    rw [Change.make, loadFont, on_load, load_font]
    rfl
  | loadImage image =>
    rw [Change.make, loadImage, Memory.change, Memory.loadImage]
    by_cases hlarge : maxImageSize < image.length
    · simp [hlarge, settle]
    · simp [hlarge]
  | reset =>
    rw [Change.make, zero, on_copy, overlay_zeros]
    rfl

end Access

/-! ## What a change makes of the bytes -/

namespace Change

/-- The changes that are made: all addresses lie in the memory, and all numbers that are copied are
bytes. -/
def IsAllowed : Change → Prop
  | .write address _ => IsAddress address
  | .load values address =>
    (∀ value ∈ values, IsByte value) ∧ 0 ≤ address ∧ address + values.length ≤ 4096
  | .loadFont => True
  | .loadImage image => (∀ value ∈ image, IsByte value) ∧ image.length ≤ 3584
  | .reset => True

/-- Whether a change is allowed can be decided by its addresses and values. -/
instance decidableIsAllowed : ∀ change : Change, Decidable change.IsAllowed
  | .write _ _ => inferInstanceAs (Decidable (IsAddress _))
  | .load _ _ => inferInstanceAs (Decidable (_ ∧ _ ∧ _))
  | .loadFont => inferInstanceAs (Decidable True)
  | .loadImage _ => inferInstanceAs (Decidable (_ ∧ _))
  | .reset => inferInstanceAs (Decidable True)

/-- The number that copying numbers to a place puts at an address, if it covers the address. -/
def copied? (values : List Int) (place address : Int) : Option Int :=
  if place ≤ address then values[(address - place).toNat]? else none

/-- The number that a change puts at an address, if it covers the address. -/
def number? : Change → Int → Option Int
  | .write place value, address => if address = place then some (value % 256) else none
  | .load values place, address => copied? values place address
  | .loadFont, address => copied? (font.map fun value => (value.toNat : Int)) 0 address
  | .loadImage image, address => copied? image 0x200 address
  | .reset, _ => some 0

end Change

/-- Values that are all bytes are read as bytes. -/
lemma bytesOfValues_of_all {values : List Int} (h : ∀ value ∈ values, IsByte value) :
    bytesOfValues values = .ok (values.map lowByte) := by
  have hall : (values.all fun value => 0 ≤ value && value < 0x100) = true := by
    simpa [IsByte] using h
  rw [bytesOfValues, if_pos hall]
  refine congrArg Except.ok (List.map_congr_left fun value hvalue => ?_)
  obtain ⟨h0, h1⟩ := h value hvalue
  rw [lowByte, Int.emod_eq_of_lt h0 h1]

/-- Values that are not all bytes are refused. -/
lemma bytesOfValues_of_not_all {values : List Int} (h : ¬∀ value ∈ values, IsByte value) :
    bytesOfValues values = .error .byteOutOfRange := by
  have hall : ¬(values.all fun value => 0 ≤ value && value < 0x100) = true := by
    simpa [IsByte] using h
  rw [bytesOfValues, if_neg hall]

/-- Numbers are copied if they are bytes and fit. -/
lemma load_eq_ok_iff (memory after : Memory) (values : List Int) (address : Int) :
    memory.load values address = .ok after ↔
      (Change.load values address).IsAllowed ∧
        memory.overlay address.toNat (values.map lowByte) = after := by
  rw [load, Change.IsAllowed]
  by_cases hbytes : ∀ value ∈ values, IsByte value
  · rw [bytesOfValues_of_all hbytes]
    dsimp only
    rw [store_eq_ok_iff, List.length_map, and_assoc, and_iff_right hbytes, and_assoc]
  · rw [bytesOfValues_of_not_all hbytes]
    exact iff_of_false (fun h => by cases h) fun h => hbytes h.1.1

/-- The byte at an address after numbers have been copied. -/
lemma get_load {memory after : Memory} {values : List Int} {place address : Int}
    (h : memory.load values place = .ok after) (haddress : IsAddress address) :
    ((after.get address.toNat).toNat : Int) =
      (Change.copied? values place address).getD (memory.get address.toNat).toNat := by
  obtain ⟨⟨hbytes, hplace, hfit⟩, rfl⟩ := (load_eq_ok_iff _ _ _ _).1 h
  obtain ⟨h0, h1⟩ := haddress
  have hlength : place.toNat + (values.map lowByte).length ≤ 4096 := by
    rw [List.length_map]
    omega
  rw [get_overlay _ _ _ _ hlength, Change.copied?]
  by_cases hle : place ≤ address
  · have hsub : address.toNat - place.toNat = (address - place).toNat := by omega
    rw [if_pos (by omega), if_pos hle, hsub, List.getElem?_map]
    cases hvalue : values[(address - place).toNat]? with
    | none => rfl
    | some value =>
      obtain ⟨hvalue0, hvalue1⟩ := hbytes value (List.mem_of_getElem? hvalue)
      simp only [Option.map_some, Option.getD_some, toNat_lowByte]
      omega
  · rw [if_neg (by omega), if_neg hle]
    rfl

/-- A program image is copied if it is small enough, and its numbers are copied then. -/
lemma loadImage_eq_ok_iff (memory after : Memory) (image : List Int) :
    memory.loadImage image = .ok after ↔
      image.length ≤ 3584 ∧ memory.load image 0x200 = .ok after := by
  have hmax : maxImageSize = 3584 := rfl
  rw [loadImage]
  by_cases hlarge : maxImageSize < image.length
  · rw [if_pos hlarge]
    exact iff_of_false (fun h => by cases h) fun h => by omega
  · rw [if_neg hlarge, and_iff_right (by omega)]
    rfl

/-- The changes that are made are those that are allowed, whatever the memory holds. -/
theorem exists_change_iff (memory : Memory) (change : Change) :
    (∃ after, memory.change change = .ok after) ↔ change.IsAllowed := by
  cases change with
  | write address value =>
    rw [Memory.change, write, Change.IsAllowed]
    by_cases haddress : IsAddress address
    · rw [locate_of_mem haddress.1 haddress.2]
      exact iff_of_true ⟨_, rfl⟩ haddress
    · rw [locate_of_notMem haddress]
      exact iff_of_false (fun ⟨_, h⟩ => by cases h) haddress
  | load values address =>
    simp only [Memory.change, load_eq_ok_iff, exists_and_left, exists_eq', and_true]
  | loadFont => exact iff_of_true ⟨_, rfl⟩ trivial
  | loadImage image =>
    simp only [Memory.change, loadImage_eq_ok_iff, load_eq_ok_iff, exists_and_left, exists_eq',
      and_true, Change.IsAllowed]
    constructor
    · rintro ⟨hlength, hbytes, -⟩
      exact ⟨hbytes, hlength⟩
    · rintro ⟨hbytes, hlength⟩
      exact ⟨hlength, hbytes, by decide, by omega⟩
  | reset => exact iff_of_true ⟨_, rfl⟩ trivial

/-- A change that is made puts its number at every address that it covers, and no other address
changes. -/
theorem get_change {memory after : Memory} {change : Change} {address : Int}
    (h : memory.change change = .ok after) (haddress : IsAddress address) :
    ((after.get address.toNat).toNat : Int) =
      (change.number? address).getD (memory.get address.toNat).toNat := by
  cases change with
  | write place value =>
    obtain ⟨h0, h1⟩ := haddress
    rw [Memory.change, write] at h
    by_cases hplace : IsAddress place
    · obtain ⟨hplace0, hplace1⟩ := hplace
      rw [locate_of_mem hplace0 hplace1, Except.ok.injEq] at h
      rw [← h, get_set _ _ _ _ (by omega), Change.number?]
      by_cases heq : address = place
      · rw [if_pos (by rw [heq]), if_pos heq, toNat_lowByte, Option.getD_some]
        omega
      · rw [if_neg (by omega), if_neg heq]
        rfl
    · rw [locate_of_notMem hplace] at h
      cases h
  | load values place => exact get_load h haddress
  | loadFont => exact get_load (memory.load_font.trans h) haddress
  | loadImage image => exact get_load ((loadImage_eq_ok_iff _ _ _).1 h).2 haddress
  | reset =>
    cases h
    rw [get_blank]
    rfl

/-! ## The last change of a byte -/

/-- The number that was put at an address by the last change that was made and covers it, and zero
if there is none. -/
def lastPut (changes : List Change) (address : Int) : Int :=
  ((changes.filter fun change => change.IsAllowed).reverse.findSome? fun change =>
    change.number? address).getD 0

/-- One more change puts its number if it is made and covers the address. -/
lemma lastPut_concat (changes : List Change) (change : Change) (address : Int) :
    lastPut (changes ++ [change]) address =
      if change.IsAllowed then (change.number? address).getD (lastPut changes address)
      else lastPut changes address := by
  rw [lastPut, lastPut, List.filter_append, List.reverse_append, List.findSome?_append]
  by_cases hallowed : change.IsAllowed
  · have hkept : ([change].filter fun change => change.IsAllowed) = [change] := by simp [hallowed]
    rw [if_pos hallowed, hkept]
    cases hnumber : change.number? address <;> simp [hnumber]
  · have hdropped : ([change].filter fun change => change.IsAllowed) = [] := by simp [hallowed]
    rw [if_neg hallowed, hdropped]
    rfl

/-- The memory after one more change. -/
lemma changed_concat (memory : Memory) (changes : List Change) (change : Change) :
    memory.changed (changes ++ [change]) = (change.make.on (memory.changed changes)).2 := by
  rw [changed, changed, List.foldl_append]
  rfl

/-- Each byte is the one that was put there last.

**Proof sketch.** Induction on the changes, the last change first: a change that is not allowed
leaves the memory as it is, and one that is allowed puts its number where it covers an address. -/
theorem get_changed (changes : List Change) {address : Int} (haddress : IsAddress address) :
    (((blank.changed changes).get address.toNat).toNat : Int) = lastPut changes address := by
  induction changes using List.reverseRecOn with
  | nil =>
    rw [changed, List.foldl_nil, get_blank]
    rfl
  | append_singleton changes change ih =>
    rw [changed_concat, Access.on_make, lastPut_concat]
    by_cases hallowed : change.IsAllowed
    · obtain ⟨after, hafter⟩ := (exists_change_iff (blank.changed changes) change).2 hallowed
      rw [hafter, if_pos hallowed, ← ih]
      exact get_change hafter haddress
    · rw [if_neg hallowed]
      rcases hresult : (blank.changed changes).change change with cause | after
      · exact ih
      · exact absurd ((exists_change_iff _ _).1 ⟨after, hresult⟩) hallowed

/-! ## Reading -/

/-- A byte is read exactly at the addresses of the memory. -/
lemma read_eq_ok_iff (memory : Memory) (address : Int) (byte : UInt8) :
    memory.read address = .ok byte ↔ IsAddress address ∧ byte = memory.get address.toNat := by
  rw [read]
  by_cases haddress : IsAddress address
  · rw [locate_of_mem haddress.1 haddress.2, and_iff_right haddress, Except.map, Except.ok.injEq]
    exact eq_comm
  · rw [locate_of_notMem haddress]
    exact iff_of_false (fun h => by cases h) fun h => haddress h.1

/-- A word is read exactly if both its addresses are in the memory, with the high byte first. -/
lemma readWord_eq_ok_iff (memory : Memory) (address : Int) (word : Nat) :
    memory.readWord address = .ok word ↔ IsAddress address ∧ IsAddress (address + 1) ∧
      word = wordOfBytes (memory.get address.toNat) (memory.get (address + 1).toNat) := by
  by_cases hfit : 0 ≤ address ∧ address < 4095
  · have hnext : (address + 1).toNat = address.toNat + 1 := by omega
    rw [readWord_of_fit memory hfit.1 hfit.2, Except.ok.injEq, hnext]
    constructor
    · rintro rfl
      exact ⟨⟨hfit.1, by omega⟩, ⟨by omega, by omega⟩, rfl⟩
    · rintro ⟨-, -, rfl⟩
      rfl
  · rw [readWord_of_not_fit memory hfit]
    refine iff_of_false (fun h => by cases h) ?_
    rintro ⟨⟨h0, -⟩, ⟨-, h1⟩, -⟩
    omega

/-- A block of cells is made of the bytes that they hold. -/
lemma toList_extract (memory : Memory) {first count : Nat} (hfit : first + count ≤ 4096) :
    (memory.cells.toArray.extract first (first + count)).toList =
      (List.range count).map fun offset => memory.get (first + offset) := by
  apply List.ext_getElem
  · rw [Array.length_toList, Array.size_extract, Vector.size_toArray, List.length_map,
      List.length_range]
    omega
  · intro offset hoffset hrange
    rw [List.length_map, List.length_range] at hrange
    rw [Array.getElem_toList, Array.getElem_extract, List.getElem_map, List.getElem_range, get,
      Vector.getElem?_eq_getElem (by omega), Option.getD_some, Vector.getElem_toArray]

/-- Bytes are read if all of their addresses lie in the memory. -/
lemma readBytes_eq_ok_iff_forall (memory : Memory) {address length : Int} (hlength : 1 ≤ length)
    (values : List UInt8) :
    memory.readBytes address length = .ok values ↔
      (∀ offset, 0 ≤ offset → offset < length → IsAddress (address + offset)) ∧
        values = (List.range length.toNat).map fun offset : Nat =>
          memory.get (address + offset).toNat := by
  have hbounds : (∀ offset, 0 ≤ offset → offset < length → IsAddress (address + offset)) ↔
      0 ≤ address ∧ address + length ≤ 4096 := by
    constructor
    · intro h
      obtain ⟨h0, -⟩ := h 0 (Int.le_refl 0) (by omega)
      obtain ⟨-, h1⟩ := h (length - 1) (by omega) (by omega)
      omega
    · rintro ⟨h0, h1⟩ offset hoffset hlast
      exact ⟨by omega, by omega⟩
  rw [readBytes_eq_ok_iff memory (by omega), hbounds, ← and_assoc]
  refine and_congr_right fun ⟨h0, h1⟩ => ?_
  rw [toList_extract memory (by omega), eq_comm]
  refine Eq.congr_right (List.map_congr_left fun offset _ => ?_)
  congr 1
  omega

/-! ## The laws -/

/-- The laws of a memory after changes. -/
structure Reflects (memory : Memory) (changes : List Change) : Prop where
  /-- One more change is made exactly if it is allowed. -/
  made : ∀ change : Change, (change.make.on memory).1 = .ok () ↔ change.IsAllowed
  /-- If it is refused, it leaves every byte as it is. -/
  refused : ∀ change : Change, ¬change.IsAllowed → (change.make.on memory).2 = memory
  /-- Each byte is the one that was put there last. -/
  get : ∀ address, IsAddress address →
    ((memory.get address.toNat).toNat : Int) = lastPut changes address
  /-- A byte is read if its address lies in the memory. -/
  read : ∀ address byte, memory.read address = .ok byte ↔
    IsAddress address ∧ (byte.toNat : Int) = lastPut changes address
  /-- A word is read if both of its addresses lie in the memory; the high byte comes first. -/
  readWord : ∀ address word, memory.readWord address = .ok word ↔
    IsAddress address ∧ IsAddress (address + 1) ∧
      (word : Int) = 256 * lastPut changes address + lastPut changes (address + 1)
  /-- Bytes are read if all of their addresses lie in the memory. -/
  readBytes : ∀ address length, 1 ≤ length → ∀ values,
    memory.readBytes address length = .ok values ↔
      (∀ offset, 0 ≤ offset → offset < length → IsAddress (address + offset)) ∧
        values.map (fun value => (value.toNat : Int)) =
          (List.range length.toNat).map fun offset : Nat => lastPut changes (address + offset)

/-- An address holds a byte exactly if this byte is the last one that a change has put there. -/
lemma toNat_eq_lastPut_iff {changes : List Change} {address : Int} (haddress : IsAddress address)
    (byte : UInt8) :
    byte = (blank.changed changes).get address.toNat ↔
      (byte.toNat : Int) = lastPut changes address := by
  rw [← get_changed changes haddress, Int.natCast_inj, UInt8.toNat_inj]

/-- **Last writer wins.** After any changes of a blank memory, with any addresses and numbers: a
change is made exactly if its addresses lie in the memory and the numbers that it copies are bytes,
and it leaves every byte as it is if not; each byte is the one that was put there by the last change
that was made and covers it, and zero if there is none; and these are the bytes that are read.

**Proof sketch.** Whether a change is made depends on its addresses and numbers only, so the bytes
follow by induction on the changes, and each way to read by the bytes. -/
theorem reflects_changed (changes : List Change) :
    (blank.changed changes).Reflects changes where
  made := by
    intro change
    rw [Access.on_make, ← exists_change_iff (blank.changed changes)]
    cases (blank.changed changes).change change with
    | error cause => exact iff_of_false (fun h => by cases h) fun ⟨_, h⟩ => by cases h
    | ok after => exact iff_of_true rfl ⟨after, rfl⟩
  refused := by
    intro change hnot
    rw [Access.on_make]
    cases hresult : (blank.changed changes).change change with
    | error cause => rfl
    | ok after => exact absurd ((exists_change_iff _ _).1 ⟨after, hresult⟩) hnot
  get := fun address haddress => get_changed changes haddress
  read := by
    intro address byte
    rw [read_eq_ok_iff]
    exact and_congr_right fun haddress => toNat_eq_lastPut_iff haddress byte
  readWord := by
    intro address word
    rw [readWord_eq_ok_iff]
    refine and_congr_right fun haddress => and_congr_right fun hnext => ?_
    rw [← get_changed changes haddress, ← get_changed changes hnext, wordOfBytes]
    omega
  readBytes := by
    intro address length hlength values
    rw [readBytes_eq_ok_iff_forall _ hlength]
    refine and_congr_right fun hfit => ?_
    have hinjective : ∀ value other : UInt8, (value.toNat : Int) = other.toNat → value = other :=
      fun value other h => UInt8.toNat_inj.1 (Int.natCast_inj.1 h)
    rw [← List.map_inj_right hinjective, List.map_map]
    refine Eq.congr_right (List.map_congr_left fun offset hoffset => ?_)
    rw [List.mem_range] at hoffset
    exact get_changed changes (hfit offset (by omega) (by omega))

-- the byte behind the written one is left by the font, and the refused changes leave nothing
example :
    let memory := blank.changed [.loadFont, .write 1 0x1FF, .write 4096 7, .load [1, 256] 0]
    memory.readWord 0 = .ok 0xF0FF ∧ memory.readBytes 1 2 = .ok [0xFF, 0x90] := by
  decide +kernel

end Memory

end ChipEight
