import Sealing.Proofs.CommandLine.RoundTrip
import Sealing.Proofs.SealedFile.InvalidInput
import Sealing.Proofs.Storage.Changes
/-!
# Only what is authentic is released

A run that opens a file reads it, its header, the secret and what it holds, and each of these steps
can end the run.  All of them are behind `opening`, which touches no file and comes to a message
exactly if the input file opens to it under the secret that was given; nothing but that message is
ever written (`openFile_run_authentic`).
-/

namespace Sealing

open FileSystem

theorem Task.pure_bind {α β ε : Type} (a : α) (f : α → Task Location ε β) :
    (pure a >>= f) = f a := rfl

/-- Chains of tasks can be grouped in either way. -/
theorem Task.bind_assoc {α β γ ε : Type} (x : Task Location ε α) (f : α → Task Location ε β)
    (g : β → Task Location ε γ) : x >>= f >>= g = x >>= fun a => f a >>= g := by
  show Program.bind (Program.bind x.run (ExceptT.bindCont f)) (ExceptT.bindCont g) =
    Program.bind x.run (ExceptT.bindCont fun a => f a >>= g)
  rw [Program.bind_assoc]
  congr
  funext result
  cases result with
  | ok a => rfl
  | error e => rfl

namespace CommandLine

open Storage

variable {env : Environment} {arguments : List String} {input output : Path}
  {keyFile : Option Path} {message data : List UInt8} {report : Report} {secret secret' : Secret}
  {w w' : World}

/-- The secret that a run has to open its input with: the key in the key file or, where none is
named, the password that is asked for. -/
def Given (env : Environment) (keyFile : Option Path) (w : World) : Secret → Prop
  | .key key => ∃ path bytes, keyFile = some path ∧ w.tree.read w.working path = .ok bytes ∧
      Key.ofList bytes = .ok key
  | .password password => keyFile = none ∧ (Task.exec (readPassword env) w).1 = .ok password

/-- The input file opens to the message under the secret that is given. -/
def Opens (env : Environment) (input : Path) (keyFile : Option Path) (w : World)
    (message : List UInt8) : Prop :=
  ∃ data secret, w.tree.read w.working input = .ok data ∧ Given env keyFile w secret ∧
    (SealedFile.openWith secret data).result = .ok (some message)

/-! ## Up to the message -/

/-- What a run that opens a file does before it writes. -/
def opening (env : Environment) (input : Path) (keyFile : Option Path) :
    Task Location Failure (List UInt8) := do
  let data ← readInput input
  let report ← step (ExceptT.mk (pure (Report.inspect data)))
  let secret ← readSecret env input keyFile report
  match ← step (Task.ofOutcome (SealedFile.openWith secret data)) with
  | none => throw (.plain "authentication failed: wrong password/key or corrupted data")
  | some message => return message

theorem runOpen_eq (env : Environment) (input output : Path) (keyFile : Option Path) :
    runOpen env input output keyFile = (do
      let message ← opening env input keyFile
      step (save ⟨output⟩ message)
      return "opened " ++ input.text ++ " -> " ++ output.text ++ "\n") := by
  unfold runOpen opening
  simp only [Task.bind_assoc]
  congr
  funext data
  congr
  funext report
  congr
  funext secret
  congr
  funext opened
  cases opened with
  | none => rfl
  | some message => simp only [Task.pure_bind]

theorem readSecret_reads {Handle : Type} (env : Environment) (input : Path) (keyFile : Option Path)
    (report : Report) :
    Task.Reads (readSecret env input keyFile report : Task Handle Failure Secret) := by
  unfold readSecret
  split
  · exact .bind (readKey_reads _) fun _ => .pure _
  · split
    · exact .bind (readPassword_reads env) fun _ => .pure _
    · exact .throw _

theorem opening_readsOnly (env : Environment) (input : Path) (keyFile : Option Path) :
    Task.ReadsOnly (opening env input keyFile) := by
  refine Task.Reads.readsOnly (.bind (readInput_reads input) fun data => ?_)
  refine .bind (.adapt _ (.ofResult _)) fun report => ?_
  refine .bind (readSecret_reads env input keyFile report) fun secret => ?_
  refine .bind (.adapt _ (Task.ofOutcome_reads _)) fun opened => ?_
  split
  · exact .throw _
  · exact .pure _

/-- A secret that is read is the one that is given. -/
theorem given_of_readSecret
    (h : Task.exec (readSecret env input keyFile report) w = (.ok secret, w')) :
    Given env keyFile w secret := by
  unfold readSecret at h
  cases keyFile with
  | some path =>
    rcases Task.exec_bind_cases h with ⟨key, w₁, hread, h⟩ | ⟨e, -, he⟩
    · obtain ⟨⟨bytes, hbytes, hkey⟩, rfl⟩ := exec_readKey_eq_ok_iff.mp hread
      cases h
      exact ⟨path, bytes, rfl, hbytes, hkey⟩
    · cases he
  | none =>
    cases hkdf : report.kdf with
    | none =>
      rw [hkdf] at h
      cases h
    | some config =>
      rw [hkdf] at h
      rcases Task.exec_bind_cases h with ⟨password, w₁, hpassword, h⟩ | ⟨e, -, he⟩
      · cases h
        exact ⟨rfl, by rw [hpassword]⟩
      · cases he

/-- The secret that is given is read, if it is of the kind that the file was sealed with. -/
theorem exec_readSecret (input : Path) (h : Given env keyFile w secret)
    (hkind : ¬report.Mismatches secret) :
    ∃ w₁, Task.exec (readSecret env input keyFile report) w = (.ok secret, w₁) := by
  unfold readSecret
  cases secret with
  | key key =>
    obtain ⟨path, bytes, rfl, hbytes, hkey⟩ := h
    refine ⟨w, ?_⟩
    simp only
    rw [Task.exec_bind, exec_readKey_eq_ok_iff.mpr ⟨⟨bytes, hbytes, hkey⟩, rfl⟩]
    rfl
  | password password =>
    obtain ⟨rfl, hpassword⟩ := h
    obtain ⟨config, hkdf⟩ := Option.ne_none_iff_exists'.mp hkind
    generalize hasked : Task.exec (readPassword env) w = asked at hpassword
    obtain ⟨result, w₁⟩ := asked
    refine ⟨w₁, ?_⟩
    simp only at hpassword ⊢
    rw [hkdf]
    simp only
    rw [Task.exec_bind, hasked, hpassword]
    rfl

/-- A run comes to a message exactly if its input opens to it. -/
theorem exec_opening_eq_ok_iff :
    (Task.exec (opening env input keyFile) w).1 = .ok message ↔
      Opens env input keyFile w message := by
  constructor
  · intro h
    obtain ⟨data, w₁, hread, h⟩ := Task.exec_bind_ok h
    obtain ⟨hdata, rfl⟩ := exec_readInput_eq_ok_iff.mp hread
    obtain ⟨report, w₁, hreport, h⟩ := Task.exec_bind_ok h
    rw [exec_step_eq_ok_iff, Task.exec_ofResult, Prod.mk.injEq] at hreport
    obtain ⟨-, rfl⟩ := hreport
    obtain ⟨secret, w₁, hsecret, h⟩ := Task.exec_bind_ok h
    obtain ⟨opened, w₂, hopen, h⟩ := Task.exec_bind_ok h
    rw [exec_step_eq_ok_iff, Task.exec_ofOutcome, Prod.mk.injEq] at hopen
    cases opened with
    | none => cases h
    | some message' =>
      cases h
      exact ⟨data, secret, hdata, given_of_readSecret hsecret, hopen.1⟩
  · rintro ⟨data, secret, hdata, hgiven, hopen⟩
    -- What can be opened can be inspected, and was sealed with a secret of that kind.
    obtain ⟨report, hinspect⟩ : ∃ report, Report.inspect data = .ok report := by
      cases hinspect : Report.inspect data with
      | ok report => exact ⟨report, rfl⟩
      | error e =>
        rw [SealedFile.openWith, SealedFile.inspect_eq_error_iff.mp hinspect] at hopen
        cases hopen
    have hkind : ¬report.Mismatches secret := by
      intro hmismatch
      obtain ⟨reason, hrefused⟩ := SealedFile.openWith_eq_invalidInput_iff.mpr
        (.inr ⟨report, hinspect, hmismatch⟩)
      rw [hrefused] at hopen
      cases hopen
    obtain ⟨w₁, hsecret⟩ := exec_readSecret input hgiven hkind
    unfold opening
    rw [Task.exec_bind, exec_readInput_eq_ok_iff.mpr ⟨hdata, rfl⟩]
    simp only
    rw [hinspect, Task.exec_bind, exec_step_eq_ok_iff.mpr (Task.exec_ofResult (.ok report) w)]
    simp only
    rw [Task.exec_bind, hsecret]
    simp only
    rw [Task.exec_bind, exec_step, Task.exec_ofOutcome, hopen]
    rfl

/-- An input opens to one message at most. -/
theorem Opens.unique {message' : List UInt8} (h : Opens env input keyFile w message)
    (h' : Opens env input keyFile w message') : message' = message := by
  rw [← exec_opening_eq_ok_iff] at h h'
  rw [h] at h'
  cases h'
  rfl

/-! ## The run -/

/-- Where the input does not open to a message, nothing is written. -/
theorem exec_runOpen_of_not_opens (output : Path)
    (h : ∀ message, ¬Opens env input keyFile w message) :
    (∃ e, (Task.exec (runOpen env input output keyFile) w).1 = .error e) ∧
      (Task.exec (runOpen env input output keyFile) w).2.tree = w.tree := by
  have hsame := opening_readsOnly env input keyFile w
  rw [runOpen_eq, Task.exec_bind]
  generalize hopening : Task.exec (opening env input keyFile) w = last at hsame ⊢
  obtain ⟨result, w₁⟩ := last
  cases result with
  | error e => exact ⟨⟨e, rfl⟩, hsame.1⟩
  | ok message => exact absurd (exec_opening_eq_ok_iff.mp (by rw [hopening])) (h message)

/-- A run that comes to its end has saved the message that its input opens to. -/
theorem exists_placed_of_runOpen {out : String}
    (h : (Task.exec (runOpen env input output keyFile) w).1 = .ok out) :
    ∃ message made, Opens env input keyFile w message ∧
      w.tree.Extends w.working output.openings made ∧
      Placed w.working output message made
        (Task.exec (runOpen env input output keyFile) w).2.tree := by
  generalize hrun : Task.exec (runOpen env input output keyFile) w = last at h ⊢
  obtain ⟨result, w'⟩ := last
  simp only at h
  subst h
  rw [runOpen_eq] at hrun
  rcases Task.exec_bind_cases hrun with ⟨message, w₁, hopening, hrest⟩ | ⟨e, -, he⟩
  case inr => cases he
  rcases Task.exec_bind_cases hrest with ⟨u, w₂, hsave, hend⟩ | ⟨e, -, he⟩
  case inr => cases he
  cases hend
  -- The save began with the files of the run.
  have hsame := opening_readsOnly env input keyFile w
  rw [hopening] at hsame
  obtain ⟨made, hextends, hplaced⟩ := exists_placed_of_save (exec_step_eq_ok_iff.mp hsave)
  rw [hsame.1, hsame.2] at hextends
  rw [hsame.2] at hplaced
  exact ⟨message, made, exec_opening_eq_ok_iff.mp (by rw [hopening]), hextends, hplaced⟩

/-- A run that opens a file releases nothing but what is authentic.  Unless its input opens to a
message, it ends with an error and leaves every file and directory as it was.  If it says that it
opened the file, that message stands at the output. -/
theorem openFile_run_authentic {level : String}
    (hparse : parse env arguments = .ok ⟨level, .openFile input output keyFile⟩) (w : World) :
    ((∀ message, ¬Opens env input keyFile w message) →
      (run env arguments w).1.code = 1 ∧ (run env arguments w).1.output = "" ∧
        (run env arguments w).2.tree = w.tree) ∧
    ((run env arguments w).1.output =
        "opened " ++ input.text ++ " -> " ++ output.text ++ "\n" →
      (run env arguments w).1.code = 0 ∧
        ∃ message made, Opens env input keyFile w message ∧
          (∀ message', Opens env input keyFile w message' → message' = message) ∧
          w.tree.Extends w.working output.openings made ∧
          Placed w.working output message made (run env arguments w).2.tree) := by
  obtain ⟨hworld, hcode⟩ := run_of_parse_ok hparse w
  rw [hworld, hcode, run_output_of_parse_ok hparse w]
  show (_ → (Exit.ofResult (Task.exec (runOpen env input output keyFile) w).1).code = 1 ∧
      (Exit.ofResult (Task.exec (runOpen env input output keyFile) w).1).output = "" ∧
        (Task.exec (runOpen env input output keyFile) w).2.tree = w.tree) ∧
    ((Exit.ofResult (Task.exec (runOpen env input output keyFile) w).1).output = _ →
      (Exit.ofResult (Task.exec (runOpen env input output keyFile) w).1).code = 0 ∧
        ∃ message made, _ ∧ _ ∧ _ ∧
          Placed w.working output message made
            (Task.exec (runOpen env input output keyFile) w).2.tree)
  refine ⟨fun hno => ?_, fun hopened => ?_⟩
  · obtain ⟨⟨e, he⟩, htree⟩ := exec_runOpen_of_not_opens output hno
    rw [he]
    exact ⟨rfl, rfl, htree⟩
  · cases hresult : (Task.exec (runOpen env input output keyFile) w).1 with
    | error e =>
      -- A run that fails says nothing.
      rw [hresult] at hopened
      have hlength := congrArg String.length hopened
      rw [String.length_append] at hlength
      have hend : "\n".length = 1 := rfl
      have hnone : (Exit.ofResult (.error e)).output.length = 0 := rfl
      omega
    | ok out =>
      obtain ⟨message, made, hopens, hextends, hplaced⟩ := exists_placed_of_runOpen hresult
      exact ⟨rfl, message, made, hopens, fun _ h => hopens.unique h, hextends, hplaced⟩

/-- A file sealed under the key opens to the message, which is put beside the link. -/
theorem openFile_run_authentic_hi :
    parse {} ["open", "--in", "sealed", "--out", "here/message", "--key-file", "here/key"] =
        .ok ⟨"warn", .openFile ⟨"sealed"⟩ ⟨"here/message"⟩ (some ⟨"here/key"⟩)⟩ ∧
      ∃ message made,
        Opens {} ⟨"sealed"⟩ (some ⟨"here/key"⟩) (run {} (sealTo "sealed") withSelfLink).2 message ∧
        Placed (run {} (sealTo "sealed") withSelfLink).2.working ⟨"here/message"⟩ message made
          (run {} ["open", "--in", "sealed", "--out", "here/message", "--key-file", "here/key"]
            (run {} (sealTo "sealed") withSelfLink).2).2.tree := by
  have hparse :
      parse {} ["open", "--in", "sealed", "--out", "here/message", "--key-file", "here/key"] =
        .ok ⟨"warn", .openFile ⟨"sealed"⟩ ⟨"here/message"⟩ (some ⟨"here/key"⟩)⟩ := by
    decide +kernel
  have houtput :
      (run {} ["open", "--in", "sealed", "--out", "here/message", "--key-file", "here/key"]
        (run {} (sealTo "sealed") withSelfLink).2).1.output =
          "opened sealed -> here/message\n" := by
    decide +kernel
  obtain ⟨-, message, made, hopens, -, -, hplaced⟩ :=
    (openFile_run_authentic hparse (run {} (sealTo "sealed") withSelfLink).2).2 houtput
  exact ⟨hparse, message, made, hopens, hplaced⟩

/-- What is said to be opened cannot be read at the output, if that leads there through the link that
it names. -/
theorem openFile_run_through_link :
    (run {} ["open", "--in", "sealed", "--out", "here/here", "--key-file", "key"]
        (run {} (sealTo "sealed") withSelfLink).2).1.output = "opened sealed -> here/here\n" ∧
      ((run {} ["open", "--in", "sealed", "--out", "here/here", "--key-file", "key"]
        (run {} (sealTo "sealed") withSelfLink).2).2.tree.read [] ⟨"here/here"⟩).isOk = false := by
  decide +kernel

end CommandLine

end Sealing
