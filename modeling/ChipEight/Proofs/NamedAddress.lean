import ChipEight.Proofs.Effect
import ChipEight.Proofs.Store
set_option autoImplicit false
set_option relaxedAutoImplicit false

/-!
# The address that a refusal names

What is asked of a memory by address may be refused for an address, and the refusal names it. Which
address that is depends on the request only, not on what the memory holds: it is the first address
outside the memory among those that the request looks at. Numbers that are to be copied are the
exception. They are refused together, and the refusal names where the last of them would lie. So it
names an address of the memory if the numbers begin in front of the memory and end inside it, and
such a request is the only one that does so.

## Main definitions

* `ChipEight.Memory.Request` — what is asked of a memory by address.
* `ChipEight.Memory.Refuses` — that a memory refuses a request for a cause.
* `ChipEight.Memory.Request.ends` — the addresses that a request looks at.
* `ChipEight.Memory.Request.EndsInside` — the requests that begin in front of the memory and end
  inside it, without being checked at their beginning.

## Main results

* `ChipEight.Memory.refuses_address_iff` — which requests are refused for which address.
* `ChipEight.Memory.refusal_names_end` — the address lies outside the memory, but for the requests
  that end inside it.
-/

namespace ChipEight

namespace Memory

/-- What is asked of a memory by address. -/
inductive Request where
  /-- The byte at an address. -/
  | read (address : Int)
  /-- That a byte is written. -/
  | write (address value : Int)
  /-- The word at an address. -/
  | readWord (address : Int)
  /-- So many bytes from an address on. -/
  | readBytes (address length : Int)
  /-- That numbers are copied to an address. -/
  | load (values : List Int) (address : Int)
  deriving DecidableEq

/-- A memory refuses a request for a cause. -/
def Refuses (memory : Memory) : Request → Error → Prop
  | .read address, cause => memory.read address = .error cause
  | .write address value, cause => memory.write address value = .error cause
  | .readWord address, cause => memory.readWord address = .error cause
  | .readBytes address length, cause => memory.readBytes address length = .error cause
  | .load values address, cause => memory.load values address = .error cause

namespace Request

/-- The addresses that a request looks at, in this order: the first one that it is about, and the
last one if there are several. A request for no bytes looks at no address. -/
def ends : Request → List Int
  | read address | write address _ => [address]
  | readWord address => [address, address + 1]
  | readBytes address length => if length = 0 then [] else [address, address + length - 1]
  | load values address =>
    if values = [] then [address] else [address, address + values.length - 1]

/-- The address for which a request is refused, if it is refused for one: the first of its ends that
lies outside the memory, but the last of its ends for bytes that are to be copied and do not fit. -/
def refusedAt? : Request → Option Int
  | load values address =>
    if (∀ value ∈ values, IsByte value) ∧ (address < 0 ∨ 4096 < address + values.length) then
      (load values address).ends.getLast?
    else none
  | request => request.ends.find? fun address => ¬IsAddress address

/-- The requests that begin in front of the memory and end inside it, and are not checked at their
beginning: numbers that are to be copied. -/
def EndsInside : Request → Prop
  | load values address => address < 0 ∧ IsAddress (address + values.length - 1)
  | _ => False

end Request

/-! ## Refusals of the single requests -/

/-- An address is refused exactly if it lies outside the memory, and it is named. -/
lemma locate_eq_error_iff (address : Int) (cause : Error) :
    locate address = .error cause ↔ ¬IsAddress address ∧ .addressOutOfRange address = cause := by
  by_cases haddress : IsAddress address
  · rw [locate_of_mem haddress.1 haddress.2]
    exact iff_of_false (fun h => by cases h) fun h => h.1 haddress
  · rw [locate_of_notMem haddress, Except.error.injEq, and_iff_right haddress]

/-- One end is refused if it lies outside the memory. -/
lemma find?_end_iff (address named : Int) :
    [address].find? (fun address => ¬IsAddress address) = some named ↔
      ¬IsAddress address ∧ address = named := by
  by_cases haddress : IsAddress address <;> simp [haddress]

/-- Of two ends the first one is refused that lies outside the memory. -/
lemma find?_ends_iff (first last named : Int) :
    [first, last].find? (fun address => ¬IsAddress address) = some named ↔
      ¬IsAddress first ∧ first = named ∨ IsAddress first ∧ ¬IsAddress last ∧ last = named := by
  by_cases hfirst : IsAddress first <;> by_cases hlast : IsAddress last <;> simp [hfirst, hlast]

/-- A byte is refused exactly if its address lies outside the memory, and the address is named. -/
lemma read_eq_error_iff (memory : Memory) (address : Int) (cause : Error) :
    memory.read address = .error cause ↔
      ¬IsAddress address ∧ .addressOutOfRange address = cause := by
  rw [read, Machine.map_eq_error_iff, locate_eq_error_iff]

/-- A change is refused exactly if its address lies outside the memory, and the address is named. -/
lemma write_eq_error_iff (memory : Memory) (address value : Int) (cause : Error) :
    memory.write address value = .error cause ↔
      ¬IsAddress address ∧ .addressOutOfRange address = cause := by
  rw [write, ← locate_eq_error_iff]
  cases locate address <;> simp

/-- A word is refused exactly if one of its two addresses lies outside the memory, and the first
such one is named. -/
lemma readWord_eq_error_iff (memory : Memory) (address : Int) (cause : Error) :
    memory.readWord address = .error cause ↔
      ¬IsAddress address ∧ .addressOutOfRange address = cause ∨
        IsAddress address ∧ ¬IsAddress (address + 1) ∧
          .addressOutOfRange (address + 1) = cause := by
  rw [readWord, ← read_eq_error_iff memory, ← read_eq_error_iff memory]
  cases hfirst : memory.read address with
  | error found =>
    have hoff : ¬IsAddress address := ((read_eq_error_iff _ _ _).1 hfirst).1
    simp [hoff]
  | ok high =>
    have hon : IsAddress address := ((read_eq_ok_iff _ _ _).1 hfirst).1
    cases memory.read (address + 1) <;> simp [hon]

/-- A block is refused exactly if its first or its last address lies outside the memory, and the
first such one is named. -/
lemma readBytes_eq_error_iff (memory : Memory) (address length : Int) (cause : Error) :
    memory.readBytes address length = .error cause ↔ length ≠ 0 ∧
      (¬IsAddress address ∧ .addressOutOfRange address = cause ∨
        IsAddress address ∧ ¬IsAddress (address + length - 1) ∧
          .addressOutOfRange (address + length - 1) = cause) := by
  rw [readBytes, ← locate_eq_error_iff, ← locate_eq_error_iff]
  by_cases hlength : length = 0
  · simp [hlength]
  · rw [if_neg hlength, and_iff_right hlength]
    cases hfirst : locate address with
    | error found =>
      have hoff : ¬IsAddress address := ((locate_eq_error_iff _ _).1 hfirst).1
      simp [hoff]
    | ok first =>
      have hon : IsAddress address := by
        by_contra hoff
        rw [locate_of_notMem hoff] at hfirst
        cases hfirst
      cases locate (address + length - 1) <;> simp [hon]

/-- Numbers are refused for an address if they are bytes and do not fit. -/
lemma load_eq_error_iff (memory : Memory) (values : List Int) (address named : Int) :
    memory.load values address = .error (.addressOutOfRange named) ↔
      ((∀ value ∈ values, IsByte value) ∧ (address < 0 ∨ 4096 < address + values.length)) ∧
        (Request.load values address).ends.getLast? = some named := by
  have hlast : (Request.load values address).ends.getLast? =
      some (if values = [] then address else address + values.length - 1) := by
    rw [Request.ends]
    split <;> rfl
  rw [hlast, load]
  by_cases hbytes : ∀ value ∈ values, IsByte value
  · rw [bytesOfValues_of_all hbytes]
    dsimp only
    simp only [store, List.length_map, List.map_eq_nil_iff, and_iff_right hbytes]
    by_cases hfit : address < 0 ∨ 4096 < address + values.length
    · simp [hfit]
    · rw [if_neg hfit]
      exact iff_of_false (fun h => by cases h) fun h => hfit h.1
  · rw [bytesOfValues_of_not_all hbytes]
    exact iff_of_false (fun h => by cases h) fun h => hbytes h.1.1

/-! ## The address that is named -/

/-- Which requests are refused for an address, and for which one, whatever the memory holds. -/
theorem refuses_address_iff (memory : Memory) (request : Request) (named : Int) :
    memory.Refuses request (.addressOutOfRange named) ↔ request.refusedAt? = some named := by
  cases request with
  | read address =>
    rw [Refuses, read_eq_error_iff, Error.addressOutOfRange.injEq]
    exact (find?_end_iff address named).symm
  | write address value =>
    rw [Refuses, write_eq_error_iff, Error.addressOutOfRange.injEq]
    exact (find?_end_iff address named).symm
  | readWord address =>
    rw [Refuses, readWord_eq_error_iff, Error.addressOutOfRange.injEq,
      Error.addressOutOfRange.injEq]
    exact (find?_ends_iff address (address + 1) named).symm
  | readBytes address length =>
    rw [Refuses, readBytes_eq_error_iff, Error.addressOutOfRange.injEq,
      Error.addressOutOfRange.injEq]
    change _ ↔ (Request.readBytes address length).ends.find? _ = some named
    rw [Request.ends]
    by_cases hlength : length = 0
    · simp [hlength]
    · rw [if_neg hlength, and_iff_right hlength]
      exact (find?_ends_iff address (address + length - 1) named).symm
  | load values address =>
    rw [Refuses, load_eq_error_iff, Request.refusedAt?, Option.ite_none_right_eq_some]

/-- A request that looks for the first of its ends outside the memory names such an end. -/
lemma names_end_of_find? {request : Request} {named : Int}
    (h : request.ends.find? (fun address => ¬IsAddress address) = some named) :
    named ∈ request.ends ∧ ¬IsAddress named :=
  ⟨List.mem_of_find?_eq_some h, by simpa using List.find?_some h⟩

/-- **Refused addresses.** A request that is refused for an address names one of its ends. The
address lies outside the memory, unless the request is one for numbers to be copied that begin in
front of the memory and end inside it: then it lies inside.

**Proof sketch.** The ends of the other requests are checked one by one. Numbers are refused if one
of their ends lies outside, and the last end is named: it lies inside exactly if the first one is
the reason. -/
theorem refusal_names_end {memory : Memory} {request : Request} {named : Int}
    (h : memory.Refuses request (.addressOutOfRange named)) :
    named ∈ request.ends ∧ (IsAddress named ↔ request.EndsInside) := by
  rw [refuses_address_iff] at h
  cases request with
  | read | write | readWord | readBytes =>
    obtain ⟨hend, houtside⟩ := names_end_of_find? h
    exact ⟨hend, iff_of_false houtside id⟩
  | load values address =>
    rw [Request.refusedAt?, Option.ite_none_right_eq_some] at h
    obtain ⟨⟨-, hmisses⟩, hlast⟩ := h
    refine ⟨List.mem_of_getLast? hlast, ?_⟩
    rw [Request.ends] at hlast
    rw [Request.EndsInside]
    by_cases hvalues : values = []
    · subst hvalues
      obtain rfl : address = named := by simpa using hlast
      simp only [IsAddress, List.length_nil] at hmisses ⊢
      omega
    · obtain rfl : address + values.length - 1 = named := by simpa [hvalues] using hlast
      have hlength : 0 < values.length := List.length_pos_iff.2 hvalues
      simp only [IsAddress] at hmisses ⊢
      omega

/-- Ten bytes that are copied to five places in front of the memory are refused for the fifth
address in it. -/
lemma refuses_across :
    blank.Refuses (.load (List.replicate 10 7) (-5)) (.addressOutOfRange 4) := by
  rw [refuses_address_iff]
  decide

/-- Three bytes from the last but one on are refused for the address behind the memory, and ten
bytes from five places in front of the memory on for an address in it. -/
theorem refusal_names_end_across :
    (blank.Refuses (.readBytes 4094 3) (.addressOutOfRange 4096) ∧
      4096 ∈ (Request.readBytes 4094 3).ends ∧ ¬IsAddress 4096) ∧
    blank.Refuses (.load (List.replicate 10 7) (-5)) (.addressOutOfRange 4) ∧
      4 ∈ (Request.load (List.replicate 10 7) (-5)).ends ∧
      (Request.load (List.replicate 10 7) (-5)).EndsInside := by
  have hread : blank.Refuses (.readBytes 4094 3) (.addressOutOfRange 4096) := by
    rw [refuses_address_iff]
    decide
  obtain ⟨hreadEnd, hreadInside⟩ := refusal_names_end hread
  obtain ⟨hloadEnd, hloadInside⟩ := refusal_names_end refuses_across
  exact ⟨⟨hread, hreadEnd, fun h => hreadInside.1 h⟩, refuses_across, hloadEnd,
    hloadInside.1 (by decide)⟩

/-- A refusal may name an address of the memory. -/
theorem not_names_outside : ¬∀ (memory : Memory) (request : Request) (named : Int),
    memory.Refuses request (.addressOutOfRange named) → ¬IsAddress named := by
  intro h
  exact h blank _ 4 refuses_across (by decide)

end Memory

end ChipEight
