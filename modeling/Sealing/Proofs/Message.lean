import Mathlib.Logic.ExistsUnique
import Sealing.Message
import Sealing.Proofs.Outcome
/-!
# Decryption inverts encryption

A ciphertext that is long enough is a body with a tag behind it, in one way.  Encryption writes the
body and tag of `Cipher.lock?` in that order, and decryption hands the two to `Cipher.unlock?`, so
that a ciphertext is read as a message exactly if it is the message's encryption.  Every other
ciphertext of sufficient length is answered with nothing, and among the tags behind one body a
single one is taken.
-/

namespace Sealing.Message

variable (key : Key) (nonce : Nonce)

/-! ## Bodies and tags -/

theorem length_append_tag (body : List UInt8) (tag : Tag) :
    (body ++ tag.toList).length = body.length + tagLength := by
  rw [List.length_append, tag.length_toList]
  rfl

/-- A ciphertext with room for a tag ends in one. -/
theorem exists_append_tag {ciphertext : List UInt8} (h : tagLength ≤ ciphertext.length) :
    ∃ (body : List UInt8) (tag : Tag), body ++ tag.toList = ciphertext := by
  have hlen : (ciphertext.drop (ciphertext.length - tagLength)).length = 16 := by
    rw [List.length_drop]
    unfold tagLength at h ⊢
    omega
  exact ⟨ciphertext.take (ciphertext.length - tagLength), ⟨_, hlen⟩, List.take_append_drop ..⟩

theorem append_tag_inj {body body' : List UInt8} {tag tag' : Tag}
    (h : body ++ tag.toList = body' ++ tag'.toList) : body = body' ∧ tag = tag' := by
  have hlen : tag.toList.length = tag'.toList.length := by
    rw [tag.length_toList, tag'.length_toList]
  obtain ⟨hbody, htag⟩ := List.append_inj' h hlen
  exact ⟨hbody, FixedBytes.toList_inj.mp htag⟩

/-! ## What the two operations answer -/

theorem result_checkCombined_eq_ok_iff {ciphertext : List UInt8} {u : Unit} :
    checkCombined ciphertext = .ok u ↔ tagLength ≤ ciphertext.length := by
  simp only [checkCombined]
  by_cases h : ciphertext.length < tagLength
  · rw [if_pos h]
    constructor
    · intro he
      cases he
    · intro hle
      exact absurd h (Nat.not_lt.mpr hle)
  · rw [if_neg h]
    exact ⟨fun _ => Nat.not_lt.mp h, fun _ => rfl⟩

/-- Encryption writes the body and then the tag. -/
theorem result_encrypt_eq_ok_iff {message ciphertext : List UInt8} :
    (encrypt key nonce message).result = .ok ciphertext ↔
      ∃ body tag, Cipher.lock? key nonce message = some (body, tag) ∧
        body ++ tag.toList = ciphertext := by
  unfold encrypt
  cases h : Cipher.lock? key nonce message with
  | none =>
    constructor
    · intro he
      cases he
    · rintro ⟨body, tag, hlock, -⟩
      cases hlock
  | some locked =>
    obtain ⟨body, tag⟩ := locked
    constructor
    · intro he
      cases he
      exact ⟨body, tag, rfl, rfl⟩
    · rintro ⟨body', tag', hlock, rfl⟩
      cases hlock
      rfl

/-- Decryption reads what stands before the last sixteen bytes as the body, and these as the tag. -/
theorem result_decrypt_append (body : List UInt8) (tag : Tag) :
    (decrypt key nonce (body ++ tag.toList)).result =
      .ok (Cipher.unlock? key nonce body tag) := by
  have hlen := length_append_tag body tag
  have hcheck : checkCombined (body ++ tag.toList) = .ok () :=
    result_checkCombined_eq_ok_iff.mpr (by rw [hlen]; exact Nat.le_add_left ..)
  have hsplit : (body ++ tag.toList).length - tagLength = body.length := by
    rw [hlen, Nat.add_sub_cancel]
  simp only [decrypt, Outcome.result_bind, Outcome.result_lift, hcheck, hsplit,
    List.drop_left, List.take_left, FixedBytes.ofList_toList, Except.ok_bind]
  cases Cipher.unlock? key nonce body tag with
  | none => rfl
  | some message => rfl

/-- Too short a ciphertext is refused. -/
theorem le_length_of_decrypt {ciphertext : List UInt8} {opened : Option (List UInt8)}
    (h : (decrypt key nonce ciphertext).result = .ok opened) :
    tagLength ≤ ciphertext.length := by
  unfold decrypt at h
  obtain ⟨u, hcheck, -⟩ := Outcome.result_bind_eq_ok_iff.mp h
  exact result_checkCombined_eq_ok_iff.mp hcheck

/-- A ciphertext that passes the check is always answered. -/
theorem exists_result_decrypt {ciphertext : List UInt8} {u : Unit}
    (h : checkCombined ciphertext = .ok u) :
    ∃ opened, (decrypt key nonce ciphertext).result = .ok opened := by
  obtain ⟨body, tag, rfl⟩ := exists_append_tag (result_checkCombined_eq_ok_iff.mp h)
  exact ⟨_, result_decrypt_append key nonce body tag⟩

/-! ## The inverse -/

/-- A ciphertext is read as a message exactly if it is that message's encryption. -/
theorem result_decrypt_eq_some_iff {message ciphertext : List UInt8} :
    (decrypt key nonce ciphertext).result = .ok (some message) ↔
      (encrypt key nonce message).result = .ok ciphertext := by
  rw [result_encrypt_eq_ok_iff]
  by_cases h : tagLength ≤ ciphertext.length
  · -- Cut into body and tag, both sides are statements on `lock?` and `unlock?`.
    obtain ⟨body, tag, rfl⟩ := exists_append_tag h
    rw [result_decrypt_append, Except.ok.injEq, Cipher.unlock?_eq_some_iff]
    constructor
    · intro hlock
      exact ⟨body, tag, hlock, rfl⟩
    · rintro ⟨body', tag', hlock, happ⟩
      obtain ⟨rfl, rfl⟩ := append_tag_inj happ
      exact hlock
  · constructor
    · intro he
      exact absurd (le_length_of_decrypt key nonce he) h
    · rintro ⟨body, tag, -, rfl⟩
      rw [length_append_tag] at h
      exact absurd (Nat.le_add_left ..) h

theorem length_of_encrypt {message ciphertext : List UInt8}
    (h : (encrypt key nonce message).result = .ok ciphertext) :
    ciphertext.length = message.length + tagLength := by
  obtain ⟨body, tag, hlock, rfl⟩ := (result_encrypt_eq_ok_iff key nonce).mp h
  rw [length_append_tag, Cipher.length_of_lock? hlock]

/-- Whether a message is encrypted depends on its length alone. -/
theorem exists_encrypt_iff {message : List UInt8} :
    (∃ ciphertext, (encrypt key nonce message).result = .ok ciphertext) ↔
      message.length < Cipher.messageBound := by
  simp only [result_encrypt_eq_ok_iff, Cipher.lock?]
  by_cases h : message.length < Cipher.messageBound
  · simp only [h, if_true, iff_true]
    exact ⟨_, _, _, rfl, rfl⟩
  · simp only [h, if_false, iff_false]
    rintro ⟨ciphertext, body, tag, hlock, -⟩
    cases hlock

/-- What is no encryption is answered with nothing. -/
theorem result_decrypt_eq_none {ciphertext : List UInt8} (hlen : tagLength ≤ ciphertext.length)
    (h : ¬∃ message, (encrypt key nonce message).result = .ok ciphertext) :
    (decrypt key nonce ciphertext).result = .ok none := by
  obtain ⟨body, tag, rfl⟩ := exists_append_tag hlen
  cases hopen : Cipher.unlock? key nonce body tag with
  | none => rw [result_decrypt_append, hopen]
  | some message =>
    -- What is unlocked was locked, so it is an encryption after all.
    refine absurd ⟨message, ?_⟩ h
    rw [← result_decrypt_eq_some_iff, result_decrypt_append, hopen]

/-- A body of a length that is encrypted has one tag with which it is read. -/
theorem existsUnique_tag {body : List UInt8} (h : body.length < Cipher.messageBound) :
    ∃! tag : Tag, ∃ message,
      (decrypt key nonce (body ++ tag.toList)).result = .ok (some message) := by
  simp only [result_decrypt_append, Except.ok.injEq, Cipher.unlock?]
  -- The tag of the body is taken, and a tag that is taken was compared with it.
  refine ⟨Cipher.tag key nonce body, ?_, ?_⟩
  · refine ⟨Cipher.applyKeystream key nonce body, ?_⟩
    simp [h]
  · rintro tag ⟨message, hopen⟩
    split at hopen
    · rename_i hc
      simp only [Bool.and_eq_true, decide_eq_true_eq] at hc
      exact hc.2.symm
    · cases hopen

/-- Decryption under a key and a nonce is the partial inverse of encryption under the two: the same
pairs of message and ciphertext, nothing for every other ciphertext that has room for a tag, and for
a body of a length that is encrypted one tag in all. -/
theorem decrypt_partial_inverse :
    (∀ message ciphertext, (decrypt key nonce ciphertext).result = .ok (some message) ↔
      (encrypt key nonce message).result = .ok ciphertext) ∧
    (∀ message ciphertext, (encrypt key nonce message).result = .ok ciphertext →
      ciphertext.length = message.length + tagLength) ∧
    (∀ ciphertext, tagLength ≤ ciphertext.length →
      (¬∃ message, (encrypt key nonce message).result = .ok ciphertext) →
      (decrypt key nonce ciphertext).result = .ok none) ∧
    (∀ body, (∃ message ciphertext, message.length = body.length ∧
        (encrypt key nonce message).result = .ok ciphertext) →
      ∃! tag : Tag, ∃ message,
        (decrypt key nonce (body ++ tag.toList)).result = .ok (some message)) := by
  refine ⟨?inverse, ?length, ?nothing, ?one_tag⟩
  case inverse =>
    intro message ciphertext
    exact result_decrypt_eq_some_iff key nonce
  case length =>
    intro message ciphertext h
    exact length_of_encrypt key nonce h
  case nothing =>
    intro ciphertext hlen h
    exact result_decrypt_eq_none key nonce hlen h
  case one_tag =>
    rintro body ⟨message, ciphertext, hlen, h⟩
    have hbound : message.length < Cipher.messageBound :=
      (exists_encrypt_iff key nonce).mp ⟨ciphertext, h⟩
    exact existsUnique_tag key nonce (hlen ▸ hbound)

end Sealing.Message
