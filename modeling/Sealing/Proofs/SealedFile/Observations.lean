import Sealing.Proofs.Envelope.Header
import Sealing.Proofs.Kdf.Derive
import Sealing.Proofs.Message.Detached
import Sealing.Proofs.SealedFile.Refusals
import Sealing.Proofs.Text.Utf8
/-!
# What is seen of a call

Whoever watches the library sees the events that a call reports and the error that it ends with, and
of a value no more than whether there is one.  All of this is fixed by the public side of the call,
which is the lengths of its messages, its cost and the header of its file, together with how it ended
(`Call.seen_eq_of_agrees`).  Keys, nonces, passwords, tags and contents add nothing, but for the
length of a password under which a message is encrypted that is too long itself
(`Call.seen_differs_overlong`).

The two calls that are compared are followed side by side.  Outcomes are `Alike` if they are the same
once they end alike; each operation is shown to have this property for any two calls with the same
public side, and the ways to put operations together keep it.
-/

namespace Sealing

open Kdf

namespace Outcome

variable {α β γ : Type}

/-- What is seen of an outcome: the events, the error, and of a value what `look` tells. -/
def seen (look : α → Bool) (x : Outcome α) : Outcome Bool :=
  ⟨x.events, look <$> x.result⟩

/-- How a call ended: with an error, or with a value. -/
def ending (x : Outcome α) : Option α := x.result.toOption

/-- Outcomes that are the same once they end alike. -/
structure Alike (x x' : Outcome Bool) : Prop where
  eq_of_ending : x.ending = x'.ending → x = x'

/-- What is seen of a value comes last. -/
theorem seen_eq_bind (look : α → Bool) (x : Outcome α) :
    x.seen look = x >>= fun a => pure (look a) := by
  obtain ⟨events, result⟩ := x
  cases result with
  | error e => rfl
  | ok a =>
    show _ = (⟨events ++ [], .ok (look a)⟩ : Outcome Bool)
    rw [List.append_nil]
    rfl

/-- What is seen of a call that answers is an answer. -/
theorem exists_result_seen {x : Outcome α} (look : α → Bool) (h : ∃ a, x.result = .ok a) :
    ∃ b, (x.seen look).result = .ok b := by
  obtain ⟨a, ha⟩ := h
  exact ⟨look a, Except.map_eq_ok_iff.mpr ⟨a, ha, rfl⟩⟩

theorem seen_bind (look : β → Bool) (x : Outcome α) (f : α → Outcome β) :
    (x >>= f).seen look = x >>= fun a => (f a).seen look := by
  obtain ⟨events, result⟩ := x
  cases result with
  | error e => rfl
  | ok a => rfl

/-- If no more is seen of what follows a value than is seen of the value, it may follow what is
seen. -/
theorem seen_bind_seen {look : α → Bool} {look' : β → Bool} (x : Outcome α) {f : α → Outcome β}
    {g : Bool → Outcome Bool} (h : ∀ a, (f a).seen look' = g (look a)) :
    (x >>= f).seen look' = x.seen look >>= g := by
  rw [seen_bind, funext h]
  obtain ⟨events, result⟩ := x
  cases result with
  | error e => rfl
  | ok a => rfl

namespace Alike

theorem refl (x : Outcome Bool) : x.Alike x := ⟨fun _ => rfl⟩

/-- Checks that refuse the same may stand in front. -/
theorem check {check : Except Error α} {check' : Except Error β} {f : α → Outcome Bool}
    {f' : β → Outcome Bool} (hrefuse : ∀ e, check = .error e ↔ check' = .error e)
    (h : ∀ a b, check = .ok a → check' = .ok b → (f a).Alike (f' b)) :
    ((liftM check : Outcome α) >>= f).Alike ((liftM check' : Outcome β) >>= f') := by
  cases hcheck : check with
  | error e =>
    rw [(hrefuse e).mp hcheck]
    exact refl _
  | ok a =>
    cases hcheck' : check' with
    | error e =>
      rw [(hrefuse e).mpr hcheck'] at hcheck
      cases hcheck
    | ok b => exact h a b hcheck hcheck'

/-- The same events may stand in front. -/
theorem behind {events : List Log.Event} {a : α} {b : β} {f : α → Outcome Bool}
    {f' : β → Outcome Bool} (h : (f a).Alike (f' b)) :
    ((⟨events, .ok a⟩ : Outcome α) >>= f).Alike ((⟨events, .ok b⟩ : Outcome β) >>= f') := by
  refine ⟨fun hend => ?_⟩
  have hsame : f a = f' b := h.eq_of_ending hend
  show (⟨events ++ (f a).events, (f a).result⟩ : Outcome Bool) = ⟨events ++ (f' b).events, _⟩
  rw [hsame]

/-- What follows both, and keeps what they were seen to end with, may depend on that. -/
theorem followed {x x' : Outcome Bool} {g : Bool → Outcome Bool} (h : x.Alike x')
    (hkeeps : ∀ b, (g b).result = .ok b) : (x >>= g).Alike (x' >>= g) := by
  have hending (y : Outcome Bool) : (y >>= g).ending = y.ending := by
    rw [ending, result_bind, ending]
    cases y.result with
    | error e => rfl
    | ok b => rw [Except.ok_bind, hkeeps]
  refine ⟨fun hend => ?_⟩
  rw [hending, hending] at hend
  rw [h.eq_of_ending hend]

end Alike

end Outcome

/-! ## Derivations -/

namespace Kdf

variable {password password' : String} {nonce nonce' : Nonce} {config : Config}
variable {f f' : Key → Outcome Bool}

/-- In front of what always answers, a derivation answers exactly the passwords that Argon2 takes. -/
theorem ending_deriveKey_bind_eq_none_iff {p : Argon2.Parameters} (h : config.parameters = .ok p)
    (hf : ∀ key, ∃ b, (f key).result = .ok b) :
    (deriveKey password nonce config >>= f).ending = none ↔ ¬Hashable password := by
  by_cases hpassword : Hashable password
  · obtain ⟨key, hkey⟩ := deriveKey_of_hashable nonce h hpassword
    obtain ⟨b, hb⟩ := hf key
    rw [Outcome.ending, Outcome.result_bind, hkey, Except.ok_bind, hb]
    simp only [hpassword, not_true, iff_false]
    intro hnone
    cases hnone
  · rw [deriveKey_of_not_hashable nonce h hpassword]
    exact ⟨fun _ => hpassword, fun _ => rfl⟩

/-- Derivations at one cost may stand in front, if nothing behind them fails or if they end alike
themselves.  Otherwise the one call could be refused in the derivation and the other behind it. -/
theorem deriveKey_bind_alike (h : ∀ key key', (f key).Alike (f' key'))
    (hend : ((∀ key, ∃ b, (f key).result = .ok b) ∧ ∀ key, ∃ b, (f' key).result = .ok b) ∨
      (Hashable password ↔ Hashable password')) :
    (deriveKey password nonce config >>= f).Alike (deriveKey password' nonce' config >>= f') := by
  cases hparameters : config.parameters with
  | error e =>
    rw [deriveKey_of_parameters_error password nonce hparameters,
      deriveKey_of_parameters_error password' nonce' hparameters]
    exact .refl _
  | ok p =>
    refine ⟨fun hsame => ?_⟩
    have hhashable : Hashable password ↔ Hashable password' := by
      rcases hend with ⟨hf, hf'⟩ | hhashable
      · rw [← not_iff_not, ← ending_deriveKey_bind_eq_none_iff hparameters hf,
          ← ending_deriveKey_bind_eq_none_iff hparameters hf', hsame]
      · exact hhashable
    by_cases hpassword : Hashable password
    · obtain ⟨key, hkey⟩ := deriveKey_of_hashable nonce hparameters hpassword
      obtain ⟨key', hkey'⟩ := deriveKey_of_hashable nonce' hparameters (hhashable.mp hpassword)
      rw [hkey, hkey'] at hsame ⊢
      exact (Outcome.Alike.behind (h key key')).eq_of_ending hsame
    · have hpassword' : ¬Hashable password' := fun h' => hpassword (hhashable.mpr h')
      rw [deriveKey_of_not_hashable nonce hparameters hpassword,
        deriveKey_of_not_hashable nonce' hparameters hpassword']
      rfl

end Kdf

/-! ## Messages -/

namespace Message

/-- What is seen of an encryption. -/
def seenLock (event : Nat → Log.Event) (operation : String) (length : Nat) : Outcome Bool :=
  if length < Cipher.messageBound then ⟨[event length], .ok true⟩
  else ⟨[], .error (.backend operation refusal)⟩

/-- What is seen of a decryption that is not refused. -/
def seenUnlock (event : Nat → Log.Event) (length : Nat) (opened : Bool) : Outcome Bool :=
  if opened then ⟨[event length], .ok true⟩ else ⟨[.authenticationFailed], .ok false⟩

theorem seen_encrypt (key : Key) (nonce : Nonce) (message : List UInt8) :
    (encrypt key nonce message).seen (fun _ => true) =
      seenLock .encrypted "encryption" message.length := by
  unfold encrypt seenLock Cipher.lock?
  by_cases h : message.length < Cipher.messageBound
  · rw [if_pos h, if_pos h]
    rfl
  · rw [if_neg h, if_neg h]
    rfl

theorem seen_encryptDetached (key : Key) (nonce : Nonce) (message : List UInt8) :
    (encryptDetached key nonce message).seen (fun _ => true) =
      seenLock .encryptedDetached "detached encryption" message.length := by
  unfold encryptDetached seenLock Cipher.lock?
  by_cases h : message.length < Cipher.messageBound
  · rw [if_pos h, if_pos h]
    rfl
  · rw [if_neg h, if_neg h]
    rfl

/-- Opened, a message has the length that was left when the tag was cut off. -/
theorem exists_seen_decrypt {ciphertext : List UInt8} {u : Unit}
    (h : checkCombined ciphertext = .ok u) (key : Key) (nonce : Nonce) :
    ∃ opened, (decrypt key nonce ciphertext).seen Option.isSome =
      seenUnlock .decrypted (ciphertext.length - tagLength) opened := by
  obtain ⟨body, tag, rfl⟩ := exists_append_tag (result_checkCombined_eq_ok_iff.mp h)
  have hsplit : (body ++ tag.toList).length - tagLength = body.length := by
    rw [length_append_tag, Nat.add_sub_cancel]
  simp only [decrypt, h, hsplit, List.drop_left, List.take_left, FixedBytes.ofList_toList,
    Outcome.lift_ok_bind]
  cases hopen : Cipher.unlock? key nonce body tag with
  | none => exact ⟨false, rfl⟩
  | some message =>
    have hlen : body.length = message.length :=
      Cipher.length_of_lock? (Cipher.unlock?_eq_some_iff.mp hopen)
    rw [hlen]
    exact ⟨true, rfl⟩

theorem exists_seen_decryptDetached (tag : Tag) (key : Key) (nonce : Nonce)
    (ciphertext : List UInt8) :
    ∃ opened, (decryptDetached key nonce ciphertext tag.toList).seen Option.isSome =
      seenUnlock .decryptedDetached ciphertext.length opened := by
  simp only [decryptDetached, FixedBytes.ofList_toList, Outcome.lift_ok_bind]
  cases hopen : Cipher.unlock? key nonce ciphertext tag with
  | none => exact ⟨false, rfl⟩
  | some message =>
    have hlen : ciphertext.length = message.length :=
      Cipher.length_of_lock? (Cipher.unlock?_eq_some_iff.mp hopen)
    rw [hlen]
    exact ⟨true, rfl⟩

theorem seenUnlock_alike (event : Nat → Log.Event) (length : Nat) (opened opened' : Bool) :
    (seenUnlock event length opened).Alike (seenUnlock event length opened') := by
  refine ⟨fun hend => ?_⟩
  cases opened <;> cases opened'
  · rfl
  · cases hend
  · cases hend
  · rfl

theorem checkCombined_congr {ciphertext ciphertext' : List UInt8}
    (hlen : ciphertext.length = ciphertext'.length) :
    checkCombined ciphertext = checkCombined ciphertext' := by
  unfold checkCombined
  rw [hlen]

theorem decrypt_alike {ciphertext ciphertext' : List UInt8}
    (hlen : ciphertext.length = ciphertext'.length) (key key' : Key) (nonce nonce' : Nonce) :
    ((decrypt key nonce ciphertext).seen Option.isSome).Alike
      ((decrypt key' nonce' ciphertext').seen Option.isSome) := by
  have hcongr := checkCombined_congr hlen
  cases hcheck : checkCombined ciphertext with
  | error e =>
    unfold decrypt
    rw [← hcongr, hcheck]
    exact .refl _
  | ok u =>
    obtain ⟨opened, hopened⟩ := exists_seen_decrypt hcheck key nonce
    obtain ⟨opened', hopened'⟩ := exists_seen_decrypt (hcongr ▸ hcheck) key' nonce'
    rw [hopened, hopened', hlen]
    exact seenUnlock_alike ..

/-- Bytes of another length are refused for their length. -/
theorem ofList_eq_error_congr {n : Nat} {what : String} {bytes bytes' : List UInt8}
    (hlen : bytes.length = bytes'.length) (e : Error) :
    FixedBytes.ofList n what bytes = .error e ↔ FixedBytes.ofList n what bytes' = .error e := by
  unfold FixedBytes.ofList
  by_cases h : bytes.length = n
  · rw [dif_pos h, dif_pos (hlen ▸ h)]
    constructor
    · intro he
      cases he
    · intro he
      cases he
  · rw [dif_neg h, dif_neg (hlen ▸ h), hlen]

theorem decryptDetached_alike {ciphertext ciphertext' tag tag' : List UInt8}
    (hlen : ciphertext.length = ciphertext'.length) (htag : tag.length = tag'.length)
    (key key' : Key) (nonce nonce' : Nonce) :
    ((decryptDetached key nonce ciphertext tag).seen Option.isSome).Alike
      ((decryptDetached key' nonce' ciphertext' tag').seen Option.isSome) := by
  by_cases h : tag.length = 16
  · obtain ⟨opened, hopened⟩ := exists_seen_decryptDetached ⟨tag, h⟩ key nonce ciphertext
    obtain ⟨opened', hopened'⟩ :=
      exists_seen_decryptDetached ⟨tag', htag ▸ h⟩ key' nonce' ciphertext'
    rw [hopened, hopened', hlen]
    exact seenUnlock_alike ..
  · unfold decryptDetached FixedBytes.ofList
    rw [dif_neg h, dif_neg (htag ▸ h), htag]
    exact .refl _

/-! ### Under a password -/

variable {password password' : String}

/-- Behind a derivation an encryption is refused for its length alone. -/
theorem seenLock_alike {event : Nat → Log.Event} {operation : String} {length : Nat}
    (hlong : Cipher.messageBound ≤ length → (Hashable password ↔ Hashable password'))
    (nonce nonce' : Nonce) (config : Config) :
    (deriveKey password nonce config >>= fun _ => seenLock event operation length).Alike
      (deriveKey password' nonce' config >>= fun _ => seenLock event operation length) := by
  refine deriveKey_bind_alike (fun _ _ => .refl _) ?_
  by_cases h : length < Cipher.messageBound
  · have hanswers : ∃ b, (seenLock event operation length).result = .ok b :=
      ⟨true, by rw [seenLock, if_pos h]⟩
    exact .inl ⟨fun _ => hanswers, fun _ => hanswers⟩
  · exact .inr (hlong (Nat.not_lt.mp h))

/-- An encryption under a password is seen as a derivation and what is seen of the encryption. -/
theorem seen_encryptWithPassword (password : String) (nonce : Nonce) (config : Config)
    (message : List UInt8) :
    (encryptWithPassword password nonce config message).seen (fun _ => true) =
      deriveKey password nonce config >>= fun _ =>
        seenLock .encrypted "encryption" message.length := by
  simp only [encryptWithPassword, Outcome.seen_bind, seen_encrypt]

theorem encryptWithPassword_alike {message message' : List UInt8}
    (hlen : message.length = message'.length)
    (hlong : Cipher.messageBound ≤ message.length → (Hashable password ↔ Hashable password'))
    (nonce nonce' : Nonce) (config : Config) :
    ((encryptWithPassword password nonce config message).seen fun _ => true).Alike
      ((encryptWithPassword password' nonce' config message').seen fun _ => true) := by
  rw [seen_encryptWithPassword, seen_encryptWithPassword, ← hlen]
  exact seenLock_alike hlong nonce nonce' config

variable {config : Config} {message : List UInt8}

/-- A message that is too long is refused by the cipher, once the key is derived. -/
theorem seen_encryptWithPassword_of_hashable (hconfig : config.Valid) (nonce : Nonce)
    (hpassword : Hashable password) (hlong : Cipher.messageBound ≤ message.length) :
    (encryptWithPassword password nonce config message).seen (fun _ => true) =
      ⟨[.derivedKey config], .error (.backend "encryption" refusal)⟩ := by
  obtain ⟨key, hkey⟩ := deriveKey_of_valid nonce hconfig hpassword
  rw [seen_encryptWithPassword, hkey, seenLock, if_neg (Nat.not_lt.mpr hlong)]
  rfl

/-- Under a password that is too long no message gets that far. -/
theorem seen_encryptWithPassword_of_not_hashable (hconfig : config.Valid) (nonce : Nonce)
    (hpassword : ¬Hashable password) (message : List UInt8) :
    (encryptWithPassword password nonce config message).seen (fun _ => true) =
      ⟨[], .error (.backend "password hashing" "password is too long")⟩ := by
  rw [seen_encryptWithPassword,
    deriveKey_of_not_hashable nonce (Config.parameters_of_valid hconfig) hpassword]
  rfl

theorem encryptDetachedWithPassword_alike {message message' : List UInt8}
    (hlen : message.length = message'.length)
    (hlong : Cipher.messageBound ≤ message.length → (Hashable password ↔ Hashable password'))
    (nonce nonce' : Nonce) (config : Config) :
    ((encryptDetachedWithPassword password nonce config message).seen fun _ => true).Alike
      ((encryptDetachedWithPassword password' nonce' config message').seen fun _ => true) := by
  simp only [encryptDetachedWithPassword, Outcome.seen_bind, seen_encryptDetached, ← hlen]
  exact seenLock_alike hlong nonce nonce' config

theorem decryptWithPassword_alike {ciphertext ciphertext' : List UInt8}
    (hlen : ciphertext.length = ciphertext'.length) (password password' : String)
    (nonce nonce' : Nonce) (config : Config) :
    ((decryptWithPassword password nonce config ciphertext).seen Option.isSome).Alike
      ((decryptWithPassword password' nonce' config ciphertext').seen Option.isSome) := by
  simp only [decryptWithPassword, Outcome.seen_bind]
  refine .check (fun e => by rw [checkCombined_congr hlen]) fun u u' hcheck hcheck' => ?_
  refine deriveKey_bind_alike (fun key key' => decrypt_alike hlen key key' nonce nonce') ?_
  exact .inl ⟨fun key => Outcome.exists_result_seen _ (exists_result_decrypt key nonce hcheck),
    fun key => Outcome.exists_result_seen _ (exists_result_decrypt key nonce' hcheck')⟩

theorem decryptDetachedWithPassword_alike {ciphertext ciphertext' tag tag' : List UInt8}
    (hlen : ciphertext.length = ciphertext'.length) (htag : tag.length = tag'.length)
    (password password' : String) (nonce nonce' : Nonce) (config : Config) :
    ((decryptDetachedWithPassword password nonce config ciphertext tag).seen Option.isSome).Alike
      ((decryptDetachedWithPassword password' nonce' config ciphertext' tag').seen
        Option.isSome) := by
  simp only [decryptDetachedWithPassword, Outcome.seen_bind]
  refine .check (ofList_eq_error_congr htag) fun t t' ht ht' => ?_
  refine deriveKey_bind_alike
    (fun key key' => decryptDetached_alike hlen htag key key' nonce nonce') ?_
  have hanswers (key : Key) := exists_result_decryptDetached key nonce ht ciphertext
  have hanswers' (key : Key) := exists_result_decryptDetached key nonce' ht' ciphertext'
  exact .inl ⟨fun key => Outcome.exists_result_seen _ (hanswers key),
    fun key => Outcome.exists_result_seen _ (hanswers' key)⟩

end Message

/-! ## Files -/

namespace SealedFile

open Envelope

/-- Nothing is seen of the writing of a seal. -/
theorem seen_sealWithKey (nonce : Nonce) (key : Key) (message : List UInt8) :
    (sealWithKey nonce key message).seen (fun _ => true) =
      (Message.encrypt key nonce message).seen (fun _ => true) >>= pure :=
  Outcome.seen_bind_seen _ fun _ => rfl

theorem sealWithPassword_alike {message message' : List UInt8}
    (hlen : message.length = message'.length) {password password' : String}
    (hlong : Cipher.messageBound ≤ message.length → (Hashable password ↔ Hashable password'))
    (nonce nonce' : Nonce) (config : Config) :
    ((sealWithPassword nonce password config message).seen fun _ => true).Alike
      ((sealWithPassword nonce' password' config message').seen fun _ => true) := by
  have hencode (nonce : Nonce) (ciphertext : List UInt8) :
      (liftM (encode (.new (some config) nonce ciphertext)) : Outcome (List UInt8)).seen
        (fun _ => true) = pure true := rfl
  simp only [sealWithPassword, Outcome.seen_bind _ (liftM _)]
  refine .check (fun e => Iff.rfl) fun _ _ _ _ => ?_
  rw [Outcome.seen_bind_seen _ (hencode nonce), Outcome.seen_bind_seen _ (hencode nonce')]
  exact .followed (Message.encryptWithPassword_alike hlen hlong nonce nonce' config) fun _ => rfl

/-- Envelopes of the same kind and length are decrypted alike with secrets of the same kind. -/
theorem decrypt_alike {e e' : Envelope} {secret secret' : Secret} (hkdf : e.kdf = e'.kdf)
    (hlen : e.ciphertext.length = e'.ciphertext.length) (hkind : secret.SameKind secret') :
    ((decrypt e secret).seen Option.isSome).Alike ((decrypt e' secret').seen Option.isSome) := by
  cases secret with
  | key key =>
    cases secret' with
    | key key' =>
      simp only [decrypt, ← hkdf]
      cases e.kdf with
      | none => exact Message.decrypt_alike hlen key key' e.nonce e'.nonce
      | some config => exact .refl _
    | password password' => exact hkind.elim
  | password password =>
    cases secret' with
    | key key' => exact hkind.elim
    | password password' =>
      simp only [decrypt, ← hkdf]
      cases e.kdf with
      | none => exact .refl _
      | some config =>
        simp only [Outcome.seen_bind]
        refine .check (fun _ => Iff.rfl) fun _ _ _ _ => ?_
        exact Message.decryptWithPassword_alike hlen password password' e.nonce e'.nonce config

theorem openWith_alike {data data' : List UInt8} {secret secret' : Secret}
    (hlen : data.length = data'.length) (hheader : data.take 22 = data'.take 22)
    (hkind : secret.SameKind secret') :
    ((openWith secret data).seen Option.isSome).Alike
      ((openWith secret' data').seen Option.isSome) := by
  have hdecode := kdf_decode_congr hlen hheader
  have hrefuse (error : Error) : decode data = .error error ↔ decode data' = .error error := by
    rw [← Except.map_eq_error_iff (f := kdf), hdecode, Except.map_eq_error_iff]
  let report (opened : Bool) : Outcome Bool := ⟨[.opened opened], .ok opened⟩
  have hreport (opened : Option (List UInt8)) :
      (Outcome.report (.opened opened.isSome) >>= fun _ => pure opened).seen Option.isSome =
        report opened.isSome := rfl
  simp only [openWith, Outcome.seen_bind _ (liftM _)]
  refine .check hrefuse fun e e' he he' => ?_
  rw [he, he'] at hdecode
  have hkdf : e.kdf = e'.kdf := Except.ok.inj hdecode
  have hciphertext : e.ciphertext.length = e'.ciphertext.length := by
    have h := length_of_encode (decode_eq_ok_iff.mp he).2
    have h' := length_of_encode (decode_eq_ok_iff.mp he').2
    omega
  rw [Outcome.seen_bind_seen (g := report) _ hreport,
    Outcome.seen_bind_seen (g := report) _ hreport]
  exact .followed (decrypt_alike hkdf hciphertext hkind) fun _ => rfl

end SealedFile

/-! ## All calls -/

/-- A call of the library that works on what is secret. -/
inductive Call where
  | encrypt (key : Key) (nonce : Nonce) (message : List UInt8)
  | decrypt (key : Key) (nonce : Nonce) (ciphertext : List UInt8)
  | encryptDetached (key : Key) (nonce : Nonce) (message : List UInt8)
  | decryptDetached (key : Key) (nonce : Nonce) (ciphertext tag : List UInt8)
  | encryptWithPassword (password : String) (nonce : Nonce) (config : Config)
      (message : List UInt8)
  | decryptWithPassword (password : String) (nonce : Nonce) (config : Config)
      (ciphertext : List UInt8)
  | encryptDetachedWithPassword (password : String) (nonce : Nonce) (config : Config)
      (message : List UInt8)
  | decryptDetachedWithPassword (password : String) (nonce : Nonce) (config : Config)
      (ciphertext tag : List UInt8)
  | deriveKey (password : String) (nonce : Nonce) (config : Config)
  | sealWithKey (nonce : Nonce) (key : Key) (message : List UInt8)
  | sealWithPassword (nonce : Nonce) (password : String) (config : Config)
      (message : List UInt8)
  | openWith (secret : Secret) (data : List UInt8)

namespace Call

/-- What is seen of a call: its events, its error, and of its value whether there is one. -/
def seen : Call → Outcome Bool
  | .encrypt key nonce message => (Message.encrypt key nonce message).seen fun _ => true
  | .decrypt key nonce ciphertext => (Message.decrypt key nonce ciphertext).seen Option.isSome
  | .encryptDetached key nonce message =>
    (Message.encryptDetached key nonce message).seen fun _ => true
  | .decryptDetached key nonce ciphertext tag =>
    (Message.decryptDetached key nonce ciphertext tag).seen Option.isSome
  | .encryptWithPassword password nonce config message =>
    (Message.encryptWithPassword password nonce config message).seen fun _ => true
  | .decryptWithPassword password nonce config ciphertext =>
    (Message.decryptWithPassword password nonce config ciphertext).seen Option.isSome
  | .encryptDetachedWithPassword password nonce config message =>
    (Message.encryptDetachedWithPassword password nonce config message).seen fun _ => true
  | .decryptDetachedWithPassword password nonce config ciphertext tag =>
    (Message.decryptDetachedWithPassword password nonce config ciphertext tag).seen Option.isSome
  | .deriveKey password nonce config => (Kdf.deriveKey password nonce config).seen fun _ => true
  | .sealWithKey nonce key message =>
    (SealedFile.sealWithKey nonce key message).seen fun _ => true
  | .sealWithPassword nonce password config message =>
    (SealedFile.sealWithPassword nonce password config message).seen fun _ => true
  | .openWith secret data => (SealedFile.openWith secret data).seen Option.isSome

/-- The log lines of a call at some level or above it. -/
def lines (level : Log.Level) (c : Call) : List String :=
  (Log.atLeast level c.seen.events).map Log.Event.line

/-- Calls of one operation with the same public side: the lengths of messages, ciphertexts and tags
and the cost agree, and for files the length, the header in front of the nonce and the kind of the
secret. -/
inductive Agrees : Call → Call → Prop where
  | encrypt {key key' : Key} {nonce nonce' : Nonce} {message message' : List UInt8}
      (hlen : message.length = message'.length) :
      Agrees (.encrypt key nonce message) (.encrypt key' nonce' message')
  | decrypt {key key' : Key} {nonce nonce' : Nonce} {ciphertext ciphertext' : List UInt8}
      (hlen : ciphertext.length = ciphertext'.length) :
      Agrees (.decrypt key nonce ciphertext) (.decrypt key' nonce' ciphertext')
  | encryptDetached {key key' : Key} {nonce nonce' : Nonce} {message message' : List UInt8}
      (hlen : message.length = message'.length) :
      Agrees (.encryptDetached key nonce message) (.encryptDetached key' nonce' message')
  | decryptDetached {key key' : Key} {nonce nonce' : Nonce}
      {ciphertext ciphertext' tag tag' : List UInt8}
      (hlen : ciphertext.length = ciphertext'.length) (htag : tag.length = tag'.length) :
      Agrees (.decryptDetached key nonce ciphertext tag)
        (.decryptDetached key' nonce' ciphertext' tag')
  | encryptWithPassword {password password' : String} {nonce nonce' : Nonce} {config : Config}
      {message message' : List UInt8} (hlen : message.length = message'.length) :
      Agrees (.encryptWithPassword password nonce config message)
        (.encryptWithPassword password' nonce' config message')
  | decryptWithPassword {password password' : String} {nonce nonce' : Nonce} {config : Config}
      {ciphertext ciphertext' : List UInt8} (hlen : ciphertext.length = ciphertext'.length) :
      Agrees (.decryptWithPassword password nonce config ciphertext)
        (.decryptWithPassword password' nonce' config ciphertext')
  | encryptDetachedWithPassword {password password' : String} {nonce nonce' : Nonce}
      {config : Config} {message message' : List UInt8} (hlen : message.length = message'.length) :
      Agrees (.encryptDetachedWithPassword password nonce config message)
        (.encryptDetachedWithPassword password' nonce' config message')
  | decryptDetachedWithPassword {password password' : String} {nonce nonce' : Nonce}
      {config : Config} {ciphertext ciphertext' tag tag' : List UInt8}
      (hlen : ciphertext.length = ciphertext'.length) (htag : tag.length = tag'.length) :
      Agrees (.decryptDetachedWithPassword password nonce config ciphertext tag)
        (.decryptDetachedWithPassword password' nonce' config ciphertext' tag')
  | deriveKey {password password' : String} {nonce nonce' : Nonce} {config : Config} :
      Agrees (.deriveKey password nonce config) (.deriveKey password' nonce' config)
  | sealWithKey {key key' : Key} {nonce nonce' : Nonce} {message message' : List UInt8}
      (hlen : message.length = message'.length) :
      Agrees (.sealWithKey nonce key message) (.sealWithKey nonce' key' message')
  | sealWithPassword {password password' : String} {nonce nonce' : Nonce} {config : Config}
      {message message' : List UInt8} (hlen : message.length = message'.length) :
      Agrees (.sealWithPassword nonce password config message)
        (.sealWithPassword nonce' password' config message')
  | openWith {secret secret' : Secret} {data data' : List UInt8}
      (hlen : data.length = data'.length) (hheader : data.take 22 = data'.take 22)
      (hkind : secret.SameKind secret') :
      Agrees (.openWith secret data) (.openWith secret' data')

/-- The message is to be encrypted under a password and has the 2^38 - 64 bytes or more that the
cipher refuses. -/
def Overlong : Call → Prop
  | .encryptWithPassword _ _ _ message | .encryptDetachedWithPassword _ _ _ message
  | .sealWithPassword _ _ _ message => Cipher.messageBound ≤ message.length
  | _ => False

/-- The password that a message is encrypted under is one that Argon2 takes. -/
def Derives : Call → Prop
  | .encryptWithPassword password _ _ _ | .encryptDetachedWithPassword password _ _ _
  | .sealWithPassword _ password _ _ => Hashable password
  | _ => True

variable {c c' : Call}

/-- Calls with the same public side are seen alike. -/
theorem Agrees.alike (h : c.Agrees c') (hlong : c.Overlong → (c.Derives ↔ c'.Derives)) :
    c.seen.Alike c'.seen := by
  cases h with
  | encrypt hlen =>
    simp only [seen, Message.seen_encrypt, hlen]
    exact .refl _
  | decrypt hlen => exact Message.decrypt_alike hlen ..
  | encryptDetached hlen =>
    simp only [seen, Message.seen_encryptDetached, hlen]
    exact .refl _
  | decryptDetached hlen htag => exact Message.decryptDetached_alike hlen htag ..
  | encryptWithPassword hlen => exact Message.encryptWithPassword_alike hlen hlong ..
  | decryptWithPassword hlen => exact Message.decryptWithPassword_alike hlen ..
  | encryptDetachedWithPassword hlen =>
    exact Message.encryptDetachedWithPassword_alike hlen hlong ..
  | decryptDetachedWithPassword hlen htag =>
    exact Message.decryptDetachedWithPassword_alike hlen htag ..
  | deriveKey =>
    simp only [seen, Outcome.seen_eq_bind]
    exact deriveKey_bind_alike (fun _ _ => .refl _)
      (.inl ⟨fun _ => ⟨true, rfl⟩, fun _ => ⟨true, rfl⟩⟩)
  | sealWithKey hlen =>
    simp only [seen, SealedFile.seen_sealWithKey, Message.seen_encrypt, hlen]
    exact .refl _
  | sealWithPassword hlen => exact SealedFile.sealWithPassword_alike hlen hlong ..
  | openWith hlen hheader hkind => exact SealedFile.openWith_alike hlen hheader hkind

/-- Logs and errors tell nothing that is secret.  Two calls with the same public side that end
alike, be it with an error, with nothing or with a value, write the same lines at every level, and if
they fail they fail with the same error.  The one exception is a message of 2^38 - 64 bytes or more
that is encrypted under a password, where the passwords have to be on the same side of 2^32 bytes. -/
theorem seen_eq_of_agrees (h : c.Agrees c') (hend : c.seen.ending = c'.seen.ending)
    (hlong : c.Overlong → (c.Derives ↔ c'.Derives)) :
    (∀ level, c.lines level = c'.lines level) ∧ c.seen.result = c'.seen.result := by
  have hsame : c.seen = c'.seen := (h.alike hlong).eq_of_ending hend
  constructor
  · intro level
    rw [lines, lines, hsame]
  · rw [hsame]

/-- The least cost of Argon2id. -/
def leastCost : Config := ⟨.argon2id13, 1, 8192⟩

theorem valid_leastCost : leastCost.Valid := Config.validate_eq_ok_iff.mp rfl

/-- An encryption of 2^38 bytes, which are more than the cipher takes, under a password. -/
def encryptOverlong (password : String) (nonce : Nonce) (byte : UInt8) : Call :=
  .encryptWithPassword password nonce leastCost (List.replicate (2 ^ 38) byte)

theorem messageBound_le (byte : UInt8) :
    Cipher.messageBound ≤ (List.replicate (2 ^ 38) byte).length := by
  rw [List.length_replicate]
  decide

theorem agrees_encryptOverlong (password password' : String) (nonce nonce' : Nonce)
    (byte byte' : UInt8) :
    (encryptOverlong password nonce byte).Agrees (encryptOverlong password' nonce' byte') :=
  .encryptWithPassword (by rw [List.length_replicate, List.length_replicate])

/-- Two messages that are too long, under two passwords, are both refused by the cipher. -/
theorem seen_eq_of_agrees_overlong :
    let c := encryptOverlong "" .zero 0
    let c' := encryptOverlong "a" Nonce.zero.next 1
    c.Overlong ∧ c.Derives ∧ c'.Derives ∧ c.seen.ending = none ∧ c'.seen.ending = none ∧
      (∀ level, c.lines level = c'.lines level) ∧ c.seen.result = c'.seen.result := by
  intro c c'
  have hpassword : Hashable "" := by decide +kernel
  have hpassword' : Hashable "a" := by decide +kernel
  have hend : c.seen.ending = none := congrArg Outcome.ending
    (Message.seen_encryptWithPassword_of_hashable valid_leastCost _ hpassword (messageBound_le 0))
  have hend' : c'.seen.ending = none := congrArg Outcome.ending
    (Message.seen_encryptWithPassword_of_hashable valid_leastCost _ hpassword' (messageBound_le 1))
  exact ⟨messageBound_le 0, hpassword, hpassword', hend, hend',
    seen_eq_of_agrees (agrees_encryptOverlong ..) (hend.trans hend'.symm)
      fun _ => iff_of_true hpassword hpassword'⟩

/-- Under a password of 2^32 bytes such a message is refused in the derivation and under a short one
by the cipher, which shows in the error and in the log. -/
theorem seen_differs_overlong :
    let c := encryptOverlong "" .zero 0
    let c' := encryptOverlong (String.ofList (List.replicate (2 ^ 32) 'a')) .zero 0
    c.Agrees c' ∧ c.seen.ending = none ∧ c'.seen.ending = none ∧
      c.lines .debug ≠ c'.lines .debug ∧ c.seen.result ≠ c'.seen.result := by
  intro c c'
  have hpassword : Hashable "" := by decide +kernel
  -- Neither the message nor the password is ever written out: only their lengths count.
  have hpassword' : ¬Hashable (String.ofList (List.replicate (2 ^ 32) 'a')) := by
    have hbytes : passwordBytes (String.ofList (List.replicate (2 ^ 32) 'a')) =
        List.replicate (2 ^ 32) 97 := Text.toUTF8_replicate rfl _
    rw [Kdf.Hashable, hbytes, List.length_replicate]
    decide
  have hseen : c.seen = ⟨[.derivedKey leastCost], .error (.backend "encryption" _)⟩ :=
    Message.seen_encryptWithPassword_of_hashable valid_leastCost _ hpassword (messageBound_le 0)
  have hseen' : c'.seen = ⟨[], .error (.backend "password hashing" "password is too long")⟩ :=
    Message.seen_encryptWithPassword_of_not_hashable valid_leastCost _ hpassword' _
  have hagrees : c.Agrees c' := agrees_encryptOverlong ..
  rw [lines, lines, hseen, hseen']
  exact ⟨hagrees, rfl, rfl, by decide +kernel, by decide +kernel⟩

end Call

end Sealing
