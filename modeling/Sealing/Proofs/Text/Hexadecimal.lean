import Sealing.Text.Hexadecimal
/-!
# Bytes in base 16

Two digits stand for each byte, so that the digits tell the bytes (`hexBytes_inj`).
-/

namespace Sealing.Text

/-- The digits in base 16, in lower case. -/
def hexDigits : List Char := "0123456789abcdef".toList

theorem hexDigit_mem {n : Nat} (hn : n < 16) : hexDigit n ∈ hexDigits := by
  revert n
  decide

theorem hexValue?_hexDigit {n : Nat} (hn : n < 16) : hexValue? (hexDigit n) = some n := by
  revert n
  decide

theorem hexDigit_inj {m n : Nat} (hm : m < 16) (hn : n < 16) (h : hexDigit m = hexDigit n) :
    m = n := by
  have hvalue := hexValue?_hexDigit hm
  rw [h, hexValue?_hexDigit hn, Option.some.injEq] at hvalue
  exact hvalue.symm

theorem digitChar_eq_hexDigit {n : Nat} (hn : n < 16) : Nat.digitChar n = hexDigit n := by
  revert n
  decide

theorem length_hexBytes (bytes : List UInt8) : (hexBytes bytes).length = 2 * bytes.length := by
  rw [← String.length_toList, hexBytes, String.toList_ofList]
  induction bytes with
  | nil => rfl
  | cons b bytes ih =>
    rw [List.flatMap_cons, List.length_append, ih, List.length_cons]
    show 2 + 2 * bytes.length = 2 * (bytes.length + 1)
    omega

theorem mem_hexBytes {bytes : List UInt8} {c : Char} (h : c ∈ (hexBytes bytes).toList) :
    c ∈ hexDigits := by
  rw [hexBytes, String.toList_ofList] at h
  obtain ⟨b, -, hc⟩ := List.mem_flatMap.mp h
  have hb : b.toNat < 256 := b.toNat_lt
  rw [List.mem_cons, List.mem_singleton] at hc
  rcases hc with rfl | rfl
  · exact hexDigit_mem (by omega)
  · exact hexDigit_mem (by omega)

/-- The digits tell the bytes. -/
theorem hexBytes_inj {a b : List UInt8} (h : hexBytes a = hexBytes b) : a = b := by
  have hdigits := congrArg String.toList h
  rw [hexBytes, hexBytes, String.toList_ofList, String.toList_ofList] at hdigits
  clear h
  induction a generalizing b with
  | nil =>
    cases b with
    | nil => rfl
    | cons y b => cases hdigits
  | cons x a ih =>
    cases b with
    | nil => cases hdigits
    | cons y b =>
      rw [List.flatMap_cons, List.flatMap_cons] at hdigits
      obtain ⟨hbyte, hrest⟩ := List.append_inj hdigits rfl
      rw [List.cons.injEq, List.cons.injEq] at hbyte
      have hx : x.toNat < 256 := x.toNat_lt
      have hy : y.toNat < 256 := y.toNat_lt
      have hhigh := hexDigit_inj (by omega) (by omega) hbyte.1
      have hlow := hexDigit_inj (by omega) (by omega) hbyte.2.1
      have hxy : x = y := UInt8.toNat_inj.mp (by omega)
      rw [hxy, ih hrest]

end Sealing.Text
