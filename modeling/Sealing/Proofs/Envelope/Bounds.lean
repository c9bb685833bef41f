import Sealing.Proofs.Envelope.Header
/-!
# Reading within the file

A file comes from anyone and can end anywhere.  `Reader` is a way of reading that is told only how
long the file is and sees its bytes through single accesses: an index, a slice, or a number made of
bytes that were taken.  An access beyond the end of the file has no answer.  `Envelope.reader` walks
through a file with an offset that moves on from field to field; it always has an answer, the one of
`Envelope.decode` (`run_reader`), so that none of its accesses goes wrong (`Reader.sound_of_run`).
-/

namespace Sealing

/-- One access to a file, or to the bytes taken from it. -/
inductive Access where
  /-- The byte at a place. -/
  | index (place : Nat)
  /-- The bytes from a place on. -/
  | slice (start length : Nat)
  /-- The number that eight bytes make. -/
  | number (bytes : List UInt8)

/-- The bytes are there: the place or the slice is within the file, and a number has its eight. -/
def Access.Sound (data : List UInt8) : Access → Prop
  | index place => place < data.length
  | slice start length => start + length ≤ data.length
  | number bytes => bytes.length = 8

/-- The places of the file whose bytes are taken. -/
def Access.places : Access → List Nat
  | index place => [place]
  | slice start length => List.range' start length
  | number _ => []

/-- A way to read a file, which goes on with what each access gives. -/
inductive Reader (α : Type) where
  | done (result : Except Error α)
  | index (place : Nat) (next : UInt8 → Reader α)
  | slice (start length : Nat) (next : List UInt8 → Reader α)
  | number (bytes : List UInt8) (next : Nat → Reader α)

namespace Reader

variable {α : Type}

/-- The error for a number that does not have its bytes. -/
def truncated : Error := .malformed "truncated integer field"

/-- Reads the number that stands in the eight bytes from a place on. -/
def numberAt (start : Nat) (next : Nat → Reader α) : Reader α :=
  slice start 8 fun bytes => number bytes next

/-- Goes on with what was found in the bytes, or stops with what is wrong with them. -/
def check {β : Type} (found : Except Error β) (next : β → Reader α) : Reader α :=
  match found with
  | .ok b => next b
  | .error e => done (.error e)

/-- What a file is read as; nothing if a byte is asked for that the file does not have. -/
def run (data : List UInt8) : Reader α → Option (Except Error α)
  | done result => some result
  | index place next =>
    match data[place]? with
    | some b => (next b).run data
    | none => none
  | slice start length next =>
    if start + length ≤ data.length then (next ((data.drop start).take length)).run data else none
  | number bytes next =>
    if bytes.length = 8 then (next (LittleEndian.decode bytes)).run data
    else some (.error truncated)

/-- The accesses that are made, in order, the one that goes wrong included. -/
def accesses (data : List UInt8) : Reader α → List Access
  | done _ => []
  | index place next =>
    .index place :: match data[place]? with
      | some b => (next b).accesses data
      | none => []
  | slice start length next =>
    .slice start length ::
      if start + length ≤ data.length then (next ((data.drop start).take length)).accesses data
      else []
  | number bytes next =>
    .number bytes ::
      if bytes.length = 8 then (next (LittleEndian.decode bytes)).accesses data else []

/-- Where there is an answer, and not that a number was cut off, no access went wrong. -/
theorem sound_of_run {data : List UInt8} {r : Reader α} {result : Except Error α}
    (hrun : r.run data = some result) (hwhole : result ≠ .error truncated) :
    ∀ access ∈ r.accesses data, access.Sound data := by
  induction r with
  | done _ =>
    intro access haccess
    cases haccess
  | index place next ih =>
    unfold run at hrun
    unfold accesses
    cases hb : data[place]? with
    | none =>
      rw [hb] at hrun
      cases hrun
    | some b =>
      rw [hb] at hrun
      simp only [List.forall_mem_cons]
      exact ⟨(List.getElem?_eq_some_iff.mp hb).1, ih b hrun⟩
  | slice start length next ih =>
    unfold run at hrun
    unfold accesses
    by_cases hin : start + length ≤ data.length
    · rw [if_pos hin] at hrun ⊢
      simp only [List.forall_mem_cons]
      exact ⟨hin, ih _ hrun⟩
    · rw [if_neg hin] at hrun
      cases hrun
  | number bytes next ih =>
    unfold run at hrun
    unfold accesses
    by_cases height : bytes.length = 8
    · rw [if_pos height] at hrun ⊢
      simp only [List.forall_mem_cons]
      exact ⟨height, ih _ hrun⟩
    · rw [if_neg height, Option.some.injEq] at hrun
      exact absurd hrun.symm hwhole

/-! ## Reading from front to back -/

/-- Each access takes its bytes where the one before it ended, the first at `start`, and only at
`stop` is there something to answer with. -/
def Walks (stop : Nat) : (start : Nat) → Reader α → Prop
  | start, done (.ok _) => start = stop
  | _, done (.error _) => True
  | start, index place next => place = start ∧ ∀ b, Walks stop (start + 1) (next b)
  | start, slice place length next => place = start ∧ ∀ bytes, Walks stop (start + length) (next bytes)
  | start, number _ next => ∀ n, Walks stop start (next n)

theorem Walks.error {stop start : Nat} {e : Error} :
    (done (.error e) : Reader α).Walks stop start := trivial

theorem Walks.check {β : Type} {stop start : Nat} {found : Except Error β} {next : β → Reader α}
    (h : ∀ b, (next b).Walks stop start) : (check found next).Walks stop start := by
  cases found with
  | ok b => exact h b
  | error e => exact .error

/-- What is read from front to back takes each byte once, in order, and all of them if it comes to an
answer. -/
theorem Walks.places {stop start : Nat} {r : Reader α} (h : r.Walks stop start)
    (data : List UInt8) :
    ∃ count, (r.accesses data).flatMap Access.places = List.range' start count ∧
      ∀ a, r.run data = some (.ok a) → start + count = stop := by
  induction r generalizing start with
  | done result =>
    refine ⟨0, rfl, ?_⟩
    intro a ha
    cases ha
    exact h
  | index place next ih =>
    obtain ⟨rfl, hnext⟩ := h
    unfold accesses run
    cases data[place]? with
    | none =>
      refine ⟨1, rfl, ?_⟩
      intro a ha
      cases ha
    | some b =>
      obtain ⟨count, hplaces, hstop⟩ := ih b (hnext b)
      refine ⟨count + 1, ?_, ?_⟩
      · rw [List.flatMap_cons, hplaces]
        rfl
      · intro a ha
        have := hstop a ha
        omega
  | slice place length next ih =>
    obtain ⟨rfl, hnext⟩ := h
    unfold accesses run
    by_cases hin : place + length ≤ data.length
    · rw [if_pos hin, if_pos hin]
      obtain ⟨count, hplaces, hstop⟩ := ih _ (hnext _)
      refine ⟨length + count, ?_, ?_⟩
      · rw [List.flatMap_cons, hplaces]
        exact List.range'_append_1
      · intro a ha
        have := hstop a ha
        omega
    · rw [if_neg hin, if_neg hin]
      refine ⟨length, List.flatMap_singleton .., ?_⟩
      intro a ha
      cases ha
  | number bytes next ih =>
    unfold accesses run
    by_cases height : bytes.length = 8
    · rw [if_pos height, if_pos height]
      exact ih _ (h _)
    · rw [if_neg height, if_neg height]
      refine ⟨0, rfl, ?_⟩
      intro a ha
      cases ha

section
variable {data : List UInt8}

/-! ## Accesses within a file -/

theorem run_index {place : Nat} {next : UInt8 → Reader α} (h : place < data.length) :
    (index place next).run data = (next data[place]).run data := by
  rw [run, List.getElem?_eq_getElem h]

theorem run_slice {start length : Nat} {next : List UInt8 → Reader α}
    (h : start + length ≤ data.length) :
    (slice start length next).run data = (next ((data.drop start).take length)).run data := by
  rw [run, if_pos h]

theorem length_slice {start length : Nat} (h : start + length ≤ data.length) :
    ((data.drop start).take length).length = length := by
  rw [List.length_take, List.length_drop]
  omega

theorem run_numberAt {start : Nat} {next : Nat → Reader α} (h : start + 8 ≤ data.length) :
    (numberAt start next).run data =
      (next (LittleEndian.decode ((data.drop start).take 8))).run data := by
  rw [numberAt, run_slice h, run, if_pos (length_slice h)]

end

end Reader

namespace Envelope

/-! ## Walking through a file -/

/-- Reads a file of the current version, field by field behind magic and version. -/
def readerCurrent (size : Nat) : Reader Envelope :=
  if size < headerLength + ciphertextMin then .done (.error (.malformed "file too short for v1"))
  else
    let offset := magic.length + 1
    .index offset fun id =>
    let offset := offset + 1
    .numberAt offset fun opsLimit =>
    let offset := offset + 8
    .numberAt offset fun memLimit =>
    let offset := offset + 8
    .slice offset Nonce.length fun nonceBytes =>
    let offset := offset + Nonce.length
    .check (Nonce.ofList nonceBytes) fun nonce =>
    .check (decodeKdf id opsLimit memLimit) fun kdf =>
    .slice offset (size - offset) fun ciphertext => .done (.ok (new kdf nonce ciphertext))

/-- Reads a file: the magic first, then the version, then the rest. -/
def reader (size : Nat) : Reader Envelope :=
  if size < magic.length + 1 then .done (.error (.malformed "file too short"))
  else
    .slice 0 magic.length fun start =>
    if start ≠ magic then .done (.error (.malformed "invalid magic"))
    else
      .index magic.length fun version =>
      if version = currentVersion then readerCurrent size
      else .done (.error (.malformed s!"unsupported version {version}"))

section
variable {data : List UInt8}

theorem field_of_le {start length : Nat} (h : start + length ≤ data.length) :
    field data start length = .ok ((data.drop start).take length) := by
  rw [field, if_pos h]

theorem byteField_of_lt {place : Nat} (h : place < data.length) :
    byteField data place = .ok data[place] := by
  unfold byteField
  rw [field_of_le h, List.drop_eq_getElem_cons h]
  rfl

theorem numberField_of_le {start : Nat} (h : start + 8 ≤ data.length) :
    numberField data start = .ok (LittleEndian.decode ((data.drop start).take 8)) := by
  unfold numberField
  rw [field_of_le h]
  rfl

theorem length_magic : magic.length = 4 := rfl

theorem run_readerCurrent : (readerCurrent data.length).run data = some (decodeCurrent data) := by
  unfold readerCurrent decodeCurrent
  by_cases hshort : data.length < headerLength + ciphertextMin
  · rw [if_pos hshort, if_pos hshort]
    rfl
  · have hlen : 62 ≤ data.length := Nat.not_lt.mp hshort
    -- Each field ends where the next one begins, the last of them 16 bytes before the end or more.
    have hid : 5 < data.length := by omega
    have hops : 6 + 8 ≤ data.length := by omega
    have hmem : 14 + 8 ≤ data.length := by omega
    have hnonce : 22 + 24 ≤ data.length := by omega
    have hrest : 46 + (data.length - 46) ≤ data.length := by omega
    rw [if_neg hshort, if_neg hshort]
    simp only [length_magic, Nonce.length, Nat.reduceAdd, byteField_of_lt hid,
      numberField_of_le hops, numberField_of_le hmem, field_of_le hnonce, Except.ok_bind]
    rw [Reader.run_index hid, Reader.run_numberAt hops, Reader.run_numberAt hmem,
      Reader.run_slice hnonce]
    cases Nonce.ofList ((data.drop 22).take 24) with
    | error e => rfl
    | ok nonce =>
      cases decodeKdf data[5] (LittleEndian.decode ((data.drop 6).take 8))
          (LittleEndian.decode ((data.drop 14).take 8)) with
      | error e => rfl
      | ok kdf =>
        have hall : (data.drop 46).take (data.length - 46) = data.drop 46 :=
          List.take_of_length_le (Nat.le_of_eq List.length_drop)
        show (Reader.slice 46 (data.length - 46) _).run data = _
        rw [Reader.run_slice hrest, hall]
        rfl

theorem walks_readerCurrent (size : Nat) : (readerCurrent size).Walks size 5 := by
  unfold readerCurrent
  by_cases hshort : size < headerLength + ciphertextMin
  · rw [if_pos hshort]
    exact .error
  · have hlen : 62 ≤ size := Nat.not_lt.mp hshort
    rw [if_neg hshort]
    refine ⟨rfl, fun id => ⟨rfl, fun _ opsLimit => ⟨rfl, fun _ memLimit => ⟨rfl, fun bytes => ?_⟩⟩⟩⟩
    refine .check fun nonce => .check fun kdf => ⟨rfl, fun ciphertext => ?_⟩
    show 46 + (size - 46) = size
    omega

theorem walks_reader (size : Nat) : (reader size).Walks size 0 := by
  unfold reader
  by_cases hshort : size < magic.length + 1
  · rw [if_pos hshort]
    exact .error
  · rw [if_neg hshort]
    refine ⟨rfl, fun start => ?_⟩
    dsimp only
    split
    · exact .error
    · refine ⟨rfl, fun version => ?_⟩
      dsimp only
      split
      · exact walks_readerCurrent size
      · exact .error

/-- The walk through a file has an answer, and it is the one of decoding. -/
theorem run_reader (data : List UInt8) : (reader data.length).run data = some (decode data) := by
  unfold reader decode
  by_cases hshort : data.length < magic.length + 1
  · rw [if_pos hshort, if_pos hshort]
    rfl
  · have hlen : 5 ≤ data.length := Nat.not_lt.mp hshort
    have hstart : 0 + magic.length ≤ data.length := Nat.le_trans (by decide) hlen
    have hversion : magic.length < data.length := hlen
    rw [if_neg hshort, if_neg hshort, Reader.run_slice hstart, List.drop_zero]
    by_cases hmagic : data.take magic.length = magic
    · simp only [hmagic, ne_eq, not_true_eq_false, if_false, byteField_of_lt hversion,
        Except.ok_bind]
      rw [Reader.run_index hversion]
      by_cases hcurrent : data[magic.length] = currentVersion
      · rw [if_pos hcurrent]
        simp only [hcurrent, if_true]
        exact run_readerCurrent
      · rw [if_neg hcurrent]
        simp only [hcurrent, if_false]
        rfl
    · simp only [hmagic, ne_eq, not_false_eq_true, if_true, Except.throw_eq, Except.error_bind]
      rfl

end

/-! ## Numbers have their bytes -/

theorem malformed_ne_truncated {reason : String} (h : reason.toList.head? ≠ some 't') :
    .malformed reason ≠ Reader.truncated := by
  intro heq
  apply h
  rw [Error.malformed.inj heq]
  rfl

theorem decodeKdf_ne_truncated (id : UInt8) (ops mem : Nat) :
    decodeKdf id ops mem ≠ .error Reader.truncated := by
  intro h
  unfold decodeKdf at h
  split at h
  · split at h
    · cases h
    · exact malformed_ne_truncated (by decide) (Except.error.inj h)
  · split at h
    · refine malformed_ne_truncated ?_ (Except.error.inj h)
      rw [String.toList_append]
      intro hfirst
      exact absurd (Option.some.inj hfirst : 'u' = 't') (by decide)
    · rw [Except.map_eq_error_iff, Kdf.Config.new] at h
      rcases Except.bind_eq_error_iff.mp h with h | ⟨_, -, h⟩
      · rcases Kdf.Config.validate_eq_error h with ⟨_, _, _, _, hlimit⟩ | ⟨-, _, hreason⟩
        · cases hlimit
        · cases hreason
      · cases h

theorem decodeCurrent_ne_truncated (data : List UInt8) :
    decodeCurrent data ≠ .error Reader.truncated := by
  intro h
  by_cases hlen : headerLength + ciphertextMin ≤ data.length
  · obtain ⟨f, rfl⟩ := Fields.exists_bytes hlen
    rw [decodeCurrent_bytes, Except.map_eq_error_iff] at h
    exact decodeKdf_ne_truncated _ _ _ h
  · rw [decodeCurrent_of_short hlen] at h
    exact malformed_ne_truncated (by decide) (Except.error.inj h)

/-- No file is refused for a number that was cut off. -/
theorem decode_ne_truncated (data : List UInt8) : decode data ≠ .error Reader.truncated := by
  intro h
  simp only [decode, Except.throw_eq, Except.error_bind] at h
  split at h
  · exact malformed_ne_truncated (by decide) (Except.error.inj h)
  rename_i hlen
  split at h
  · exact malformed_ne_truncated (by decide) (Except.error.inj h)
  rw [byteField_of_lt (Nat.not_lt.mp hlen), Except.ok_bind] at h
  split at h
  · exact decodeCurrent_ne_truncated data h
  · refine malformed_ne_truncated ?_ (Except.error.inj h)
    rw [String.toList_append]
    intro hfirst
    exact absurd (Option.some.inj hfirst : 'u' = 't') (by decide)

/-- Decoding never steps outside the file.  A walk through it, whose accesses are all that it sees of
the file, comes to the answer of decoding on every string of bytes: each index and each slice lies
within the file, and a number is only ever read from eight bytes, so that none is cut off.  What is
accepted was taken apart into magic, version, header fields and ciphertext, and each place of it
belongs to one of them. -/
theorem decode_stays_within (data : List UInt8) :
    (reader data.length).run data = some (decode data) ∧
    (∀ access ∈ (reader data.length).accesses data, access.Sound data) ∧
    decode data ≠ .error (.malformed "truncated integer field") ∧
    ∀ e, decode data = .ok e →
      ((reader data.length).accesses data).flatMap Access.places = List.range data.length ∧
      data = magic ++ [e.version] ++ encodeKdf e.kdf ++ e.nonce.toList ++ e.ciphertext := by
  refine ⟨?answered, ?sound, ?whole, ?covered⟩
  case answered => exact run_reader data
  case sound => exact Reader.sound_of_run (run_reader data) (decode_ne_truncated data)
  case whole => exact decode_ne_truncated data
  case covered =>
    intro e he
    constructor
    · obtain ⟨count, hplaces, hstop⟩ := (walks_reader data.length).places data
      have hcount : 0 + count = data.length := hstop e (by rw [run_reader, he])
      rw [hplaces, ← hcount, Nat.zero_add, List.range_eq_range']
    · exact bytes_of_decode he

end Envelope

end Sealing
