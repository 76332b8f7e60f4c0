import Mathlib.Data.List.Basic
import SchemaWire.Text.Case

/-!
ASCII texts in lowercase, by the codes of their bytes. Two of them are equal in lowercase exactly if
their codes are, with capital letters counted as small ones, so such texts are compared without
reading their characters.
-/
namespace SchemaWire.Text

def codes (s : String) : List Nat := s.toByteArray.data.toList.map UInt8.toNat

def isAscii (s : String) : Bool := (codes s).all (· < 128)

def lowerCode (n : Nat) : Nat := if 65 ≤ n && n ≤ 90 then n + 32 else n

def lowerCodes (s : String) : List Nat := (codes s).map lowerCode

theorem codes_inj {s t : String} : codes s = codes t ↔ s = t := by
  refine ⟨fun same => ?_, congrArg codes⟩
  have bytes := List.map_injective_iff.mpr (fun _ _ => UInt8.toNat_inj.mp) same
  exact String.toByteArray_inj.mp (ByteArray.ext (Array.toList_inj.mp bytes))

/-- The characters below 128, looked up once. -/
theorem asciiTable : ∀ n : Fin 128, String.utf8EncodeChar (Char.ofNat n) = [UInt8.ofNat n] ∧
    (Char.ofNat n).toNat = n ∧ (Char.ofNat n).toLower = Char.ofNat (lowerCode n) ∧
      lowerCode n < 128 := by
  decide +kernel

theorem codes_ofList {ns : List Nat} (ascii : ∀ n ∈ ns, n < 128) :
    codes (String.ofList (ns.map Char.ofNat)) = ns := by
  rw [codes, String.toByteArray_ofList, List.utf8Encode, List.data_toByteArray]
  induction ns with
  | nil => rfl
  | cons n rest ih =>
      obtain ⟨small, others⟩ := List.forall_mem_cons.mp ascii
      have kept : (UInt8.ofNat n).toNat = n := Nat.mod_eq_of_lt (Nat.lt_trans small (by decide))
      have single : String.utf8EncodeChar (Char.ofNat n) = [UInt8.ofNat n] :=
        (asciiTable ⟨n, small⟩).1
      rw [List.map_cons, List.flatMap_cons, single, List.singleton_append, List.map_cons, kept,
        ih others]

theorem lowerAfter_eq_map {before cs : List Char} (ascii : ∀ c ∈ cs, c.toNat < 128) :
    lowerAfter before cs = cs.map Char.toLower := by
  induction cs generalizing before with
  | nil => rfl
  | cons c rest ih =>
      obtain ⟨small, others⟩ := List.forall_mem_cons.mp ascii
      have notSigma : c ≠ 'Σ' := by
        rintro rfl
        exact absurd small (by decide)
      have single : lowerChar c = [c.toLower] := if_pos small
      simp only [lowerAfter, beq_iff_eq, if_neg notSigma, single, ih others, List.map_cons,
        List.singleton_append]

theorem codes_lower {s : String} (ascii : isAscii s = true) : codes (lower s) = lowerCodes s := by
  have small : ∀ n ∈ codes s, n < 128 := by simpa [isAscii] using ascii
  have spelled : s.toList = (codes s).map Char.ofNat := by
    rw [← String.toList_ofList (l := (codes s).map Char.ofNat)]
    exact congrArg String.toList (codes_inj.mp (codes_ofList small).symm)
  have chars : ∀ c ∈ (codes s).map Char.ofNat, c.toNat < 128 := by
    refine List.forall_mem_map.mpr fun n code => ?_
    rw [(asciiTable ⟨n, small n code⟩).2.1]
    exact small n code
  have lowered : ((codes s).map Char.ofNat).map Char.toLower = (lowerCodes s).map Char.ofNat := by
    rw [lowerCodes, List.map_map, List.map_map]
    exact List.map_congr_left fun n code => (asciiTable ⟨n, small n code⟩).2.2.1
  rw [lower, spelled, lowerAfter_eq_map chars, lowered, codes_ofList]
  exact List.forall_mem_map.mpr fun n code => (asciiTable ⟨n, small n code⟩).2.2.2

/-- In lowercase, ASCII texts are equal if their codes are. -/
theorem lower_eq_lower_iff {s t : String} (first : isAscii s = true) (second : isAscii t = true) :
    lower s = lower t ↔ lowerCodes s = lowerCodes t := by
  rw [← codes_inj, codes_lower first, codes_lower second]

end SchemaWire.Text
