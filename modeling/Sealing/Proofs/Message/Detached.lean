import Sealing.Proofs.Message
/-!
# Tags behind the ciphertext or apart from it

The two forms of a message are made and read in two ways: with the tag behind the body, where reading
has to find the place at which the one ends and the other begins, or with the two apart.  Both ways
go through `Cipher.lock?` and `Cipher.unlock?` with the same body and the same tag, so that they
take and refuse the same messages, and one form is the other one cut in two.
-/

namespace Sealing.Message

variable (key : Key) (nonce : Nonce)

/-- The form with the tag behind the ciphertext. -/
def Detached.combined (d : Detached) : List UInt8 := d.ciphertext ++ d.tag.toList

/-! ## What the detached operations answer -/

/-- Encryption answers with body and tag as they were made. -/
theorem result_encryptDetached_eq_ok_iff {message : List UInt8} {d : Detached} :
    (encryptDetached key nonce message).result = .ok d ↔
      Cipher.lock? key nonce message = some (d.ciphertext, d.tag) := by
  unfold encryptDetached
  cases h : Cipher.lock? key nonce message with
  | none =>
    constructor
    · intro he
      cases he
    · intro he
      cases he
  | some locked =>
    obtain ⟨body, tag⟩ := locked
    constructor
    · intro he
      cases he
      rfl
    · intro he
      cases he
      rfl

/-- Decryption takes the tag that it is given, whatever the length of the body. -/
theorem result_decryptDetached_tag (body : List UInt8) (tag : Tag) :
    (decryptDetached key nonce body tag.toList).result =
      .ok (Cipher.unlock? key nonce body tag) := by
  simp only [decryptDetached, Outcome.result_bind, Outcome.result_lift, FixedBytes.ofList_toList,
    Except.ok_bind]
  cases Cipher.unlock? key nonce body tag with
  | none => rfl
  | some message => rfl

theorem exists_result_decryptDetached {tag : List UInt8} {t : Tag}
    (h : FixedBytes.ofList 16 "mac" tag = .ok t) (ciphertext : List UInt8) :
    ∃ opened, (decryptDetached key nonce ciphertext tag).result = .ok opened := by
  obtain rfl := FixedBytes.ofList_eq_ok_iff.mp h
  exact ⟨_, result_decryptDetached_tag key nonce ciphertext t⟩

/-! ## One form and the other -/

/-- A message has one form exactly if it has the other. -/
theorem result_encryptDetached_eq_ok_iff_combined {message : List UInt8} {d : Detached} :
    (encryptDetached key nonce message).result = .ok d ↔
      (encrypt key nonce message).result = .ok d.combined := by
  rw [result_encryptDetached_eq_ok_iff, result_encrypt_eq_ok_iff]
  constructor
  · intro h
    exact ⟨d.ciphertext, d.tag, h, rfl⟩
  · rintro ⟨body, tag, h, happ⟩
    -- The tag has one length, so that the whole is cut in one place.
    obtain ⟨rfl, rfl⟩ := append_tag_inj happ
    exact h

/-- Every ciphertext that encryption makes is a detached one put together. -/
theorem exists_combined_of_encrypt {message ciphertext : List UInt8}
    (h : (encrypt key nonce message).result = .ok ciphertext) :
    ∃ d : Detached, d.combined = ciphertext := by
  obtain ⟨body, tag, -, happ⟩ := (result_encrypt_eq_ok_iff key nonce).mp h
  exact ⟨⟨body, tag⟩, happ⟩

theorem length_of_encryptDetached {message : List UInt8} {d : Detached}
    (h : (encryptDetached key nonce message).result = .ok d) :
    d.ciphertext.length = message.length :=
  Cipher.length_of_lock? ((result_encryptDetached_eq_ok_iff key nonce).mp h)

/-- The two forms are one cipher.  A message is encrypted to the one exactly if it is encrypted to
the other, and then the ciphertext apart, which has the length of the message, is the combined one
without its tag.  A body and a tag of sixteen bytes are decrypted apart to what they are decrypted to
together: to a message, or both to nothing. -/
theorem detached_agrees_combined :
    (∀ message, (∃ d, (encryptDetached key nonce message).result = .ok d) ↔
      ∃ ciphertext, (encrypt key nonce message).result = .ok ciphertext) ∧
    (∀ message d, (encryptDetached key nonce message).result = .ok d →
      (encrypt key nonce message).result = .ok (d.ciphertext ++ d.tag.toList) ∧
        d.ciphertext.length = message.length) ∧
    (∀ body tag, tag.length = tagLength →
      ∃ opened, (decryptDetached key nonce body tag).result = .ok opened ∧
        (decrypt key nonce (body ++ tag)).result = .ok opened) := by
  refine ⟨?alike, ?encrypted, ?decrypted⟩
  case alike =>
    intro message
    constructor
    · rintro ⟨d, h⟩
      exact ⟨d.combined, (result_encryptDetached_eq_ok_iff_combined key nonce).mp h⟩
    · rintro ⟨ciphertext, h⟩
      obtain ⟨d, rfl⟩ := exists_combined_of_encrypt key nonce h
      exact ⟨d, (result_encryptDetached_eq_ok_iff_combined key nonce).mpr h⟩
  case encrypted =>
    intro message d h
    exact ⟨(result_encryptDetached_eq_ok_iff_combined key nonce).mp h,
      length_of_encryptDetached key nonce h⟩
  case decrypted =>
    intro body bytes hlen
    let tag : Tag := ⟨bytes, hlen⟩
    exact ⟨Cipher.unlock? key nonce body tag, result_decryptDetached_tag key nonce body tag,
      result_decrypt_append key nonce body tag⟩

end Sealing.Message
