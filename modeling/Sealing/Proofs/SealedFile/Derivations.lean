import Sealing.Proofs.Kdf.Derive
import Sealing.Proofs.Message.Detached
import Sealing.Proofs.SealedFile
/-!
# What a call spends on derivations

Deriving a key is the costly part of a call, and whoever sends a file asks for the cost.  A call is
frugal if it derives one key at most, at a cost that is allowed, and none if it fails in the end: the
checks come first.  What a call spends is read off the derivations that it reports.
-/

namespace Sealing

open Kdf

namespace Outcome

variable {α β : Type}

/-- The costs of the derivations that a call ran, in order. -/
def derivations (x : Outcome α) : List Config :=
  x.events.filterMap fun
    | .derivedKey config => some config
    | _ => none

theorem derivations_bind (x : Outcome α) (f : α → Outcome β) :
    (x >>= f).derivations = x.derivations ++
      match x.result with
      | .error _ => []
      | .ok a => (f a).derivations := by
  unfold derivations
  rw [events_bind, List.filterMap_append]
  cases x.result with
  | error e => rfl
  | ok a => rfl

@[simp] theorem derivations_lift (x : Except Error α) :
    (liftM x : Outcome α).derivations = [] := rfl

/-- In front of a chain that derives nothing stands all that is derived. -/
theorem derivations_bind_left {x : Outcome α} {f : α → Outcome β}
    (h : ∀ a, (f a).derivations = []) : (x >>= f).derivations = x.derivations := by
  rw [derivations_bind]
  cases x.result with
  | error e => exact List.append_nil _
  | ok a =>
    show x.derivations ++ (f a).derivations = x.derivations
    rw [h a, List.append_nil]

/-- A call derives one key at most, at an allowed cost, and none if it ends with an error. -/
structure Frugal (allowed : Config → Prop) (x : Outcome α) : Prop where
  once : x.derivations.length ≤ 1
  refused : ∀ e, x.result = .error e → x.derivations = []
  affordable : ∀ config ∈ x.derivations, allowed config

namespace Frugal

variable {allowed : Config → Prop}

theorem of_derivations_eq_nil {x : Outcome α} (h : x.derivations = []) : x.Frugal allowed := by
  refine ⟨by simp [h], fun _ _ => h, ?_⟩
  simp [h]

/-- Checks may stand in front of a frugal call. -/
theorem lift_bind {x : Except Error α} {f : α → Outcome β}
    (h : ∀ a, x = .ok a → (f a).Frugal allowed) :
    ((liftM x : Outcome α) >>= f).Frugal allowed := by
  cases x with
  | error e => exact of_derivations_eq_nil rfl
  | ok a => exact h a rfl

/-- Behind a frugal call there may stand whatever derives nothing and does not fail. -/
theorem bind {x : Outcome α} {f : α → Outcome β} (hx : x.Frugal allowed)
    (hderives : ∀ a, (f a).derivations = []) (hanswers : ∀ a, ∃ b, (f a).result = .ok b) :
    (x >>= f).Frugal allowed := by
  have hsame : (x >>= f).derivations = x.derivations := derivations_bind_left hderives
  refine ⟨by rw [hsame]; exact hx.once, ?_, by rw [hsame]; exact hx.affordable⟩
  intro e he
  rw [hsame]
  rw [result_bind] at he
  cases hresult : x.result with
  | error e' => exact hx.refused e' hresult
  | ok a =>
    obtain ⟨b, hb⟩ := hanswers a
    rw [hresult, Except.ok_bind, hb] at he
    cases he

theorem mono {allowed' : Config → Prop} {x : Outcome α} (hx : x.Frugal allowed)
    (h : ∀ config, allowed config → allowed' config) : x.Frugal allowed' :=
  ⟨hx.once, hx.refused, fun config hconfig => h config (hx.affordable config hconfig)⟩

end Frugal

end Outcome

/-! ## Messages -/

/-- A derivation is frugal by itself: refused before it runs, or run to its end. -/
theorem Kdf.deriveKey_frugal (password : String) (nonce : Nonce) (config : Config) :
    (deriveKey password nonce config).Frugal (· = config) := by
  obtain ⟨e, h⟩ | ⟨key, h⟩ := deriveKey_cases password nonce config
  · rw [h]
    exact .of_derivations_eq_nil rfl
  · rw [h]
    refine ⟨Nat.le_refl 1, ?_, ?_⟩
    · intro e he
      cases he
    · intro c hc
      exact List.mem_singleton.mp hc

namespace Message

theorem derivations_encrypt (key : Key) (nonce : Nonce) (message : List UInt8) :
    (encrypt key nonce message).derivations = [] := by
  unfold encrypt
  cases Cipher.lock? key nonce message with
  | none => rfl
  | some locked => rfl

theorem derivations_decrypt (key : Key) (nonce : Nonce) (ciphertext : List UInt8) :
    (decrypt key nonce ciphertext).derivations = [] := by
  simp only [decrypt, Outcome.derivations_bind, Outcome.derivations_lift, Outcome.result_lift,
    List.nil_append]
  split
  · rfl
  · split
    · rfl
    · split <;> rfl

theorem derivations_decryptDetached (key : Key) (nonce : Nonce) (ciphertext tag : List UInt8) :
    (decryptDetached key nonce ciphertext tag).derivations = [] := by
  simp only [decryptDetached, Outcome.derivations_bind, Outcome.derivations_lift,
    Outcome.result_lift, List.nil_append]
  split
  · rfl
  · split <;> rfl

variable (password : String) (nonce : Nonce) (config : Config)

theorem decryptWithPassword_frugal (ciphertext : List UInt8) :
    (decryptWithPassword password nonce config ciphertext).Frugal (· = config) := by
  refine .lift_bind fun u hcheck => ?_
  refine .bind (deriveKey_frugal password nonce config) ?_ ?_
  · intro key
    exact derivations_decrypt key nonce ciphertext
  · intro key
    exact exists_result_decrypt key nonce hcheck

theorem decryptDetachedWithPassword_frugal (ciphertext tag : List UInt8) :
    (decryptDetachedWithPassword password nonce config ciphertext tag).Frugal (· = config) := by
  refine .lift_bind fun t htag => ?_
  refine .bind (deriveKey_frugal password nonce config) ?_ ?_
  · intro key
    exact derivations_decryptDetached key nonce ciphertext tag
  · intro key
    exact exists_result_decryptDetached key nonce htag ciphertext

/-- All that an encryption derives is its key. -/
theorem derivations_encryptWithPassword (message : List UInt8) :
    (encryptWithPassword password nonce config message).derivations =
      (deriveKey password nonce config).derivations :=
  Outcome.derivations_bind_left fun key => derivations_encrypt key nonce message

end Message

/-! ## Files -/

/-- A cost between the least of its algorithm and the highest that a file may ask for. -/
def Kdf.Config.Affordable (c : Config) : Prop :=
  (c.algorithm.opsMin ≤ c.opsLimit ∧ c.opsLimit ≤ SecurityLevel.highest.ops c.algorithm) ∧
  (c.algorithm.memMin ≤ c.memLimit ∧ c.memLimit ≤ SecurityLevel.highest.mem c.algorithm)

namespace SealedFile

theorem decrypt_frugal (e : Envelope) (secret : Secret) :
    (decrypt e secret).Frugal Config.Affordable := by
  cases secret with
  | key key =>
    simp only [decrypt]
    cases e.kdf with
    | none => exact .of_derivations_eq_nil (Message.derivations_decrypt key e.nonce e.ciphertext)
    | some config => exact .of_derivations_eq_nil rfl
  | password password =>
    simp only [decrypt]
    cases e.kdf with
    | none => exact .of_derivations_eq_nil rfl
    | some config =>
      -- The ceiling is checked before the key is derived, so that it bounds the derivation.
      refine .lift_bind fun u hceiling => ?_
      have haffordable : config.Affordable := Config.checkCeiling_eq_ok_iff.mp hceiling
      refine (Message.decryptWithPassword_frugal password e.nonce config e.ciphertext).mono ?_
      rintro c rfl
      exact haffordable

theorem openWith_frugal (secret : Secret) (data : List UInt8) :
    (openWith secret data).Frugal Config.Affordable := by
  refine .lift_bind fun e _ => ?_
  refine .bind (decrypt_frugal e secret) ?_ ?_
  · intro opened
    rfl
  · intro opened
    exact ⟨opened, rfl⟩

/-- Below the ceiling a seal derives what its encryption does, and above it is refused. -/
theorem derivations_sealWithPassword (nonce : Nonce) (password : String) (config : Config)
    (message : List UInt8) :
    (sealWithPassword nonce password config message).derivations =
      match config.checkCeiling .highest with
      | .error _ => []
      | .ok _ => (deriveKey password nonce config).derivations := by
  unfold sealWithPassword
  rw [Outcome.derivations_bind, Outcome.derivations_lift, Outcome.result_lift, List.nil_append]
  cases config.checkCeiling .highest with
  | error e => rfl
  | ok u =>
    show Outcome.derivations (Message.encryptWithPassword password nonce config message >>= _) = _
    rw [Outcome.derivations_bind_left fun _ => rfl, Message.derivations_encryptWithPassword]

theorem length_derivations_sealWithPassword_le (nonce : Nonce) (password : String)
    (config : Config) (message : List UInt8) :
    (sealWithPassword nonce password config message).derivations.length ≤ 1 := by
  rw [derivations_sealWithPassword]
  cases config.checkCeiling .highest with
  | error e => exact Nat.zero_le 1
  | ok u => exact (deriveKey_frugal password nonce config).once

/-- A seal derives at the cost that it was given, and only if that is affordable. -/
theorem mem_derivations_sealWithPassword {nonce : Nonce} {password : String} {config c : Config}
    {message : List UInt8}
    (h : c ∈ (sealWithPassword nonce password config message).derivations) :
    c = config ∧ c.Affordable := by
  rw [derivations_sealWithPassword] at h
  cases hceiling : config.checkCeiling .highest with
  | error e =>
    rw [hceiling] at h
    cases h
  | ok u =>
    rw [hceiling] at h
    have hsame : c = config := (deriveKey_frugal password nonce config).affordable c h
    have haffordable : config.Affordable := Config.checkCeiling_eq_ok_iff.mp hceiling
    exact ⟨hsame, hsame ▸ haffordable⟩

/-- A seal is refused, with nothing reported, for a cost above the ceiling or one that is not valid. -/
theorem sealWithPassword_of_refused (nonce : Nonce) (password : String) {config : Config}
    (message : List UInt8) {e : Error}
    (h : (config.checkCeiling .highest >>= fun _ => config.validate) = .error e) :
    sealWithPassword nonce password config message = ⟨[], .error e⟩ := by
  unfold sealWithPassword
  cases hceiling : config.checkCeiling .highest with
  | error e' =>
    rw [hceiling, Except.error_bind] at h
    cases h
    rfl
  | ok u =>
    rw [hceiling, Except.ok_bind] at h
    rw [Outcome.lift_ok_bind, Message.encryptWithPassword, deriveKey_of_validate_error nonce h]
    rfl

/-- No call spends more on derivations than it must.  Opening, and either way of decrypting under a
password, derive one key at most and none if they fail; sealing derives one key at most and none if
it refuses its cost.  Opening and sealing derive at costs between the least of the algorithm and the
highest that a file may ask for. -/
theorem derivations_bounded :
    (∀ secret data, (openWith secret data).Frugal Config.Affordable) ∧
    (∀ nonce password config message,
      (sealWithPassword nonce password config message).derivations.length ≤ 1 ∧
      (∀ c ∈ (sealWithPassword nonce password config message).derivations,
        c = config ∧ c.Affordable) ∧
      (∀ e, (config.checkCeiling .highest >>= fun _ => config.validate) = .error e →
        sealWithPassword nonce password config message = ⟨[], .error e⟩)) ∧
    (∀ password nonce config ciphertext,
      (Message.decryptWithPassword password nonce config ciphertext).Frugal (· = config)) ∧
    (∀ password nonce config ciphertext tag,
      (Message.decryptDetachedWithPassword password nonce config ciphertext tag).Frugal
        (· = config)) := by
  refine ⟨?opening, ?sealing, ?combined, ?detached⟩
  case opening =>
    intro secret data
    exact openWith_frugal secret data
  case sealing =>
    intro nonce password config message
    refine ⟨length_derivations_sealWithPassword_le nonce password config message, ?_, ?_⟩
    · intro c hc
      exact mem_derivations_sealWithPassword hc
    · intro e he
      exact sealWithPassword_of_refused nonce password message he
  case combined =>
    intro password nonce config ciphertext
    exact Message.decryptWithPassword_frugal password nonce config ciphertext
  case detached =>
    intro password nonce config ciphertext tag
    exact Message.decryptDetachedWithPassword_frugal password nonce config ciphertext tag

end SealedFile

end Sealing
