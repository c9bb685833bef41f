import Sealing.Proofs.Envelope
import Sealing.Proofs.Json.Text
import Sealing.Proofs.Kdf.Names
import Sealing.Report
/-!
# Reports tell headers

A report and its JSON text say as much as the header of the file and the length of its ciphertext,
and nothing else (`eq_iff_of_inspect`, `compact_eq_iff`, `pretty_eq_iff`).
-/

namespace Sealing

open Json (Integral)

/-! ## The JSON values of reports -/

namespace Kdf

theorem Algorithm.toJson_inj {a b : Algorithm} (h : a.toJson = b.toJson) : a = b := by
  have hread := toldByName.ofJson_toJson a
  rw [h, toldByName.ofJson_toJson, Except.ok.injEq] at hread
  exact hread.symm

theorem Config.integral_toJson (c : Config) : Integral c.toJson := by
  refine .object fun field hfield => ?_
  simp only [List.mem_cons, List.not_mem_nil, or_false] at hfield
  rcases hfield with rfl | rfl | rfl
  · exact .string _
  · exact .integer _
  · exact .integer _

theorem Config.toJson_inj {c c' : Config} (h : c.toJson = c'.toJson) : c = c' := by
  obtain ⟨algorithm, ops, mem⟩ := c
  obtain ⟨algorithm', ops', mem'⟩ := c'
  simp only [toJson, Json.object.injEq, List.cons.injEq, Prod.mk.injEq, Json.integer.injEq, true_and,
    and_true, Int.natCast_inj] at h
  obtain ⟨halgorithm, rfl, rfl⟩ := h
  rw [Algorithm.toJson_inj halgorithm]

end Kdf

namespace Report

theorem integral_toJson (r : Report) : Integral r.toJson := by
  refine .object fun field hfield => ?_
  simp only [List.mem_cons, List.not_mem_nil, or_false] at hfield
  rcases hfield with rfl | rfl | rfl | rfl
  · exact .integer _
  · cases r.kdf with
    | none => exact .null
    | some c => exact c.integral_toJson
  · refine .array fun item hitem => ?_
    obtain ⟨b, -, rfl⟩ := List.mem_map.mp hitem
    exact .integer _
  · exact .integer _

theorem toJson_kdf_inj {kdf kdf' : Option Kdf.Config}
    (h : (kdf.map Kdf.Config.toJson).getD .null = (kdf'.map Kdf.Config.toJson).getD .null) :
    kdf = kdf' := by
  cases kdf with
  | none =>
    cases kdf' with
    | none => rfl
    | some c' => cases h
  | some c =>
    cases kdf' with
    | none => cases h
    | some c' => rw [Kdf.Config.toJson_inj h]

theorem toJson_inj {r r' : Report} (h : r.toJson = r'.toJson) : r = r' := by
  obtain ⟨version, kdf, nonce, length⟩ := r
  obtain ⟨version', kdf', nonce', length'⟩ := r'
  simp only [toJson, Json.object.injEq, List.cons.injEq, Prod.mk.injEq, Json.integer.injEq, true_and,
    and_true, Int.natCast_inj, Json.array.injEq] at h
  obtain ⟨hversion, hkdf, hnonce, rfl⟩ := h
  have hbyte (b b' : UInt8) (hb : Json.integer b.toNat = Json.integer b'.toNat) : b = b' :=
    UInt8.toNat_inj.mp (Int.natCast_inj.mp (Json.integer.inj hb))
  rw [UInt8.toNat_inj.mp hversion, toJson_kdf_inj hkdf,
    Nonce.toList_inj.mp ((List.map_inj_right hbyte).mp hnonce)]

end Report

/-! ## Reports of files -/

namespace Report

open Envelope

variable {data data' : List UInt8} {r r' : Report}

theorem inspect_eq_ok_iff : inspect data = .ok r ↔ ∃ e, decode data = .ok e ∧ ofEnvelope e = r :=
  Except.map_eq_ok_iff

/-- Two files have the same report exactly if they are of one length and have the same header. -/
theorem eq_iff_of_inspect (h : inspect data = .ok r) (h' : inspect data' = .ok r') :
    r = r' ↔ data.length = data'.length ∧ data.take headerLength = data'.take headerLength := by
  obtain ⟨e, hdecode, rfl⟩ := inspect_eq_ok_iff.mp h
  obtain ⟨e', hdecode', rfl⟩ := inspect_eq_ok_iff.mp h'
  obtain ⟨hformed, hencode⟩ := decode_eq_ok_iff.mp hdecode
  obtain ⟨hformed', hencode'⟩ := decode_eq_ok_iff.mp hdecode'
  rw [take_of_decode hdecode, take_of_decode hdecode', length_of_encode hencode,
    length_of_encode hencode', Nat.add_left_cancel_iff]
  simp only [ofEnvelope, mk.injEq]
  constructor
  · rintro ⟨hversion, hkdf, hnonce, hlength⟩
    refine ⟨hlength, ?_⟩
    -- The header is written from what the report says.
    rw [header, hversion, hkdf, hnonce, header]
  · rintro ⟨hlength, hheader⟩
    -- Only the ciphertexts differ, of which the reports give the length.
    have heq := hformed.eq_of_header hformed' hheader
    rw [← heq]
    exact ⟨rfl, rfl, rfl, hlength⟩

theorem compact_eq_iff : r.toJson.compact = r'.toJson.compact ↔ r = r' := by
  rw [r.integral_toJson.compact_inj r'.integral_toJson]
  exact ⟨toJson_inj, congrArg toJson⟩

theorem pretty_eq_iff : r.toJson.pretty = r'.toJson.pretty ↔ r = r' := by
  rw [r.integral_toJson.pretty_inj r'.integral_toJson]
  exact ⟨toJson_inj, congrArg toJson⟩

end Report

end Sealing
