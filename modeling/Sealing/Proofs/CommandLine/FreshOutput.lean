import Sealing.CommandLine.Session
import Sealing.Proofs.CommandLine.Inputs
import Sealing.Proofs.Storage
/-!
# Commands that make a new file

`writeFresh` asks whether something stands at its path before the directory of the path is made.  A
path can lead nowhere for want of a directory and to a file once that is made, and the file is lost
then.  There is no other way to lose one (`keepsFiles_writeFresh_iff`), and none at all where the
directory is there already (`keepsFiles_writeFresh_of_stat`).
-/

namespace Sealing.CommandLine

open FileSystem

variable {env : Environment} {arguments : List String} {output : Path} {done : String}
  {content : Task Location Failure (List UInt8)} {w w' : World} {result : Except Failure String}

/-! ## One command -/

/-- The path leads nowhere, but once its directory and those that this one lies in are made it names
the entry at a location. -/
def Uncovers (w : World) (p : Path) (l : Location) : Prop :=
  (∀ kind, w.tree.stat w.working p ≠ .ok kind) ∧
    ∃ made, Task.exec (Storage.makeDirectories p.directory) w =
        (.ok (), { w with tree := made }) ∧
      made.Names w.working p l

theorem run_isPresent (p : Path) (w : World) :
    Program.run (Storage.isPresent ⟨p⟩) w = ((w.tree.stat w.working p).isOk, w) := by
  show Program.run (Program.bind (Program.request (.stat p)) _) w = _
  rw [Program.run_bind]
  show Program.run _ w = _
  cases h : w.tree.stat w.working p with
  | ok kind =>
    simp only [Program.request, Program.run, World.answer, h]
    rfl
  | error e =>
    simp only [Program.request, Program.run, World.answer, h]
    rfl

/-- A path is fresh if nothing can be found there. -/
theorem exec_expectFresh (p : Path) (w : World) :
    Task.exec (expectFresh p) w =
      (if (w.tree.stat w.working p).isOk then .error (.plain (p.text ++ " already exists"))
        else .ok (), w) := by
  unfold expectFresh
  rw [Task.exec_bind, Task.exec_lift, run_isPresent]
  simp only
  split
  · rfl
  · rfl

/-- A new file is not written and every entry kept, or it is written where its path leads once its
directory is made. -/
theorem writeFresh_cases (hcontent : Task.ReadsOnly content)
    (h : Task.exec (writeFresh output content done) w = (result, w')) :
    (∃ e, result = .error e ∧ Tree.KeepsAll w.tree w'.tree) ∨
      ∃ bytes made l, (content.exec w).1 = .ok bytes ∧
        (∀ kind, w.tree.stat w.working output ≠ .ok kind) ∧
        Task.exec (Storage.makeDirectories output.directory) w =
          (.ok (), { w with tree := made }) ∧
        Tree.KeepsAll w.tree made ∧ made.Names w.working output l ∧
        made.Sets l (.file bytes Storage.fileMode) w'.tree ∧
        ((∀ d, made.find? l = some d → d.isFile = true) → result = .ok done) := by
  unfold writeFresh at h
  rw [Task.exec_bind, exec_expectFresh] at h
  by_cases hstat : (w.tree.stat w.working output).isOk = true
  · rw [if_pos hstat] at h
    cases h
    exact .inl ⟨_, rfl, .refl _ _⟩
  have hfresh : ∀ kind, w.tree.stat w.working output ≠ .ok kind := by
    intro kind hkind
    rw [hkind] at hstat
    exact hstat rfl
  rw [if_neg hstat] at h
  rcases Task.exec_bind_cases h with ⟨bytes, w₁, hbytes, h⟩ | ⟨e, hbytes, rfl⟩
  · -- The content is made by reading, so the save begins with the files of the test.
    obtain ⟨htree, hworking⟩ := hcontent w
    simp only [hbytes] at htree hworking
    generalize hsave : Task.exec (Storage.save ⟨output⟩ bytes) w₁ = saved at h
    obtain ⟨written, w₂⟩ := saved
    rw [Task.exec_bind, step, Task.exec_adapt, hsave] at h
    rcases Storage.save_cases hsave with ⟨e, rfl, hkeep⟩ | ⟨made, l, hmade, hkeep, hl, -, hset, hok⟩
    · cases h
      exact .inl ⟨_, rfl, htree ▸ hkeep⟩
    · rw [htree] at hkeep
      rw [hworking] at hl
      have hmade := (Storage.makeDirectories_growsTree _).exec_eq htree hworking hmade
      have hresult : w₂ = w' ∧ (written = .ok () → result = .ok done) := by
        cases written with
        | ok _ =>
          cases h
          exact ⟨rfl, fun _ => rfl⟩
        | error e =>
          cases h
          refine ⟨rfl, fun hok => ?_⟩
          cases hok
      obtain ⟨rfl, hdone⟩ := hresult
      exact .inr ⟨bytes, made, l, by rw [hbytes], hfresh, hmade, hkeep, hl, hset,
        fun hfile => hdone (hok hfile)⟩
  · have hsame := hcontent w
    rw [hbytes] at hsame
    rw [hsame.1]
    exact .inl ⟨e, rfl, .refl _ _⟩

/-- The new file takes the place of a file of other content or permissions. -/
def Clobbers (w : World) (output : Path) (content : Task Location Failure (List UInt8))
    (l : Location) : Prop :=
  Uncovers w output l ∧
    ∃ bytes old mode, (content.exec w).1 = .ok bytes ∧ w.tree.find? l = some (.file old mode) ∧
      (old, mode) ≠ (bytes, Storage.fileMode)

/-- Files are kept unless the command comes to its end and takes the place of one. -/
theorem keepsFiles_writeFresh_iff (hcontent : Task.ReadsOnly content) (w : World) :
    w.tree.KeepsFiles (Task.exec (writeFresh output content done) w).2.tree ↔
      ((∃ out, (Task.exec (writeFresh output content done) w).1 = .ok out) →
        ∀ l, ¬Clobbers w output content l) := by
  generalize h : Task.exec (writeFresh output content done) w = last
  obtain ⟨result, w'⟩ := last
  rcases writeFresh_cases hcontent h with
    ⟨e, rfl, hkeep⟩ | ⟨bytes, made, k, hbytes, hfresh, hmade, hkeep, hk, hset, hok⟩
  · constructor
    · rintro _ ⟨out, hout⟩
      cases hout
    · intro _
      exact hkeep.keepsFiles
  constructor
  · -- The file that is clobbered is the one that the save put its content over.
    rintro hfiles - l ⟨⟨-, made', hmade', hl⟩, bytes', old, mode, hbytes', hold, hne⟩
    rw [hmade] at hmade'
    rw [hbytes] at hbytes'
    cases hmade'
    cases hbytes'
    obtain rfl := hl.unique hk
    have hlost := hfiles l _ hold rfl
    rw [hset.self] at hlost
    cases hlost
    exact hne rfl
  · -- Only the entry that the path names by then can be another one, and a file there makes the
    -- command succeed, since no link was replaced.
    intro hclobbers l e hold hfile
    have hmadeOld := hkeep l e hold trivial
    by_cases hlk : l = k
    · subst hlk
      cases e with
      | file old mode =>
        have hresult := hok fun d hd => by
          rw [hmadeOld] at hd
          cases hd
          rfl
        have hsame : (old, mode) = (bytes, Storage.fileMode) :=
          Decidable.byContradiction fun hne => hclobbers ⟨done, hresult⟩ l
            ⟨⟨hfresh, made, hmade, hk⟩, bytes, old, mode, hbytes, hold, hne⟩
        cases hsame
        exact hset.self
      | directory => cases hfile
      | link target => cases hfile
    · rw [hset.other l hlk, hmadeOld]

/-- Where the directory of the path stands already no file is lost. -/
theorem keepsFiles_writeFresh_of_stat (hcontent : Task.ReadsOnly content)
    (hdir : w.tree.stat w.working output.directory = .ok .directory) :
    w.tree.KeepsFiles (Task.exec (writeFresh output content done) w).2.tree := by
  rw [keepsFiles_writeFresh_iff hcontent]
  rintro - l ⟨⟨hfresh, made, hmade, hl⟩, bytes, old, mode, -, hold, -⟩
  rw [Storage.exec_makeDirectories_of_stat hdir, Prod.mk.injEq] at hmade
  have htree : w.tree = made := congrArg World.tree hmade.2
  rw [← htree] at hl
  exact hfresh .file (Tree.stat_of_names hl hold)

/-! ## A run of the program -/

/-- The path of the new file that a command makes, with the task of its content. -/
def Command.fresh? (env : Environment) :
    Command → Option (Path × Task Location Failure (List UInt8))
  | .keygen output => some (output, keyContent)
  | .sealFile input output keyFile cost => some (output, sealContent env input keyFile cost)
  | .openFile .. => none
  | .inspect _ => none

/-- The same of the command that the arguments make, if they make one. -/
def freshOutput? (env : Environment) (arguments : List String) :
    Option (Path × Task Location Failure (List UInt8)) :=
  match parse env arguments with
  | .ok invocation => invocation.command.fresh? env
  | .error _ => none

theorem writeFresh_of_fresh? {command : Command} (h : command.fresh? env = some (output, content)) :
    Task.Reads content ∧ ∃ done, command.program env = writeFresh output content done := by
  cases command with
  | keygen path =>
    cases h
    exact ⟨keyContent_reads, _, rfl⟩
  | sealFile input path keyFile cost =>
    cases h
    exact ⟨sealContent_reads env input keyFile cost, _, rfl⟩
  | openFile input path keyFile => cases h
  | inspect input => cases h

theorem program_of_fresh? {command : Command} (h : command.fresh? env = some (output, content)) :
    Task.ReadsOnly content ∧
      ∃ done, command.program env = writeFresh output content done := by
  obtain ⟨hreads, hprogram⟩ := writeFresh_of_fresh? h
  exact ⟨hreads.readsOnly, hprogram⟩

theorem run_of_parse_ok {invocation : Invocation} (h : parse env arguments = .ok invocation)
    (w : World) :
    (run env arguments w).2 = (Task.exec (invocation.command.program env) w).2 ∧
      (run env arguments w).1.code =
        (Exit.ofResult (Task.exec (invocation.command.program env) w).1).code := by
  unfold run
  rw [h]
  exact ⟨rfl, rfl⟩

theorem run_output_of_parse_ok {invocation : Invocation}
    (h : parse env arguments = .ok invocation) (w : World) :
    (run env arguments w).1.output =
      (Exit.ofResult (Task.exec (invocation.command.program env) w).1).output := by
  unfold run
  rw [h]
  rfl

theorem run_of_parse_error {interruption : Interruption}
    (h : parse env arguments = .error interruption) (w : World) :
    (run env arguments w).2 = w := by
  unfold run
  rw [h]

theorem code_ofResult_eq_zero_iff : (Exit.ofResult result).code = 0 ↔ ∃ out, result = .ok out := by
  cases result with
  | ok out =>
    constructor
    · intro _
      exact ⟨out, rfl⟩
    · intro _
      rfl
  | error failure =>
    constructor
    · intro h
      cases h
    · rintro ⟨out, h⟩
      cases h

/-- Every run but one that opens a file keeps all files, with their content and permissions, exactly
unless it ends well and its new file takes the place of one that its path did not lead to before the
directory of the path was made. -/
theorem keepsFiles_run_iff (w : World)
    (hopen : ∀ level input output keyFile,
      parse env arguments ≠ .ok ⟨level, .openFile input output keyFile⟩) :
    w.tree.KeepsFiles (run env arguments w).2.tree ↔
      ((run env arguments w).1.code = 0 → ∀ output content l,
        freshOutput? env arguments = some (output, content) →
          ¬Clobbers w output content l) := by
  cases hparse : parse env arguments with
  | error interruption =>
    -- There is no command, and nothing is done.
    have hnone : freshOutput? env arguments = none := by
      unfold freshOutput?
      rw [hparse]
    rw [run_of_parse_error hparse, hnone]
    constructor
    · intro _ _ output content l h
      cases h
    · intro _
      exact .refl _ _
  | ok invocation =>
    obtain ⟨hworld, hcode⟩ := run_of_parse_ok hparse w
    have hfresh : freshOutput? env arguments = invocation.command.fresh? env := by
      unfold freshOutput?
      rw [hparse]
    rw [hworld, hcode, hfresh, code_ofResult_eq_zero_iff]
    cases hsome : invocation.command.fresh? env with
    | some job =>
      obtain ⟨output, content⟩ := job
      obtain ⟨hcontent, done, hprogram⟩ := program_of_fresh? hsome
      rw [hprogram, keepsFiles_writeFresh_iff hcontent]
      constructor
      · intro h hout output' content' l hjob
        cases hjob
        exact h hout l
      · intro h hout l
        exact h hout output content l rfl
    | none =>
      -- A command that makes no new file and opens none is a report.
      have hsame : Task.ReadsOnly (invocation.command.program env) := by
        obtain ⟨level, command⟩ := invocation
        cases command with
        | keygen output => cases hsome
        | sealFile input output keyFile cost => cases hsome
        | openFile input output keyFile => exact absurd hparse (hopen level input output keyFile)
        | inspect input => exact runInspect_readsOnly input
      rw [(hsame w).1]
      constructor
      · intro _ _ output content l h
        cases h
      · intro _
        exact .refl _ _

/-- A directory with nothing in it but a file. -/
def withKeepKey : World where
  tree := ⟨[("keep.key", ⟨some (.file "keep me".toUTF8.toList 0o644), []⟩)]⟩
  working := []
  input := []
  random := fun _ => 0
  events := []

theorem keepsFiles_run_iff_keygen :
    (∀ level input output keyFile, parse {} ["keygen", "--out", "missing/../keep.key"] ≠
      .ok ⟨level, .openFile input output keyFile⟩) ∧
    (withKeepKey.tree.KeepsFiles
        (run {} ["keygen", "--out", "missing/../keep.key"] withKeepKey).2.tree ↔
      ((run {} ["keygen", "--out", "missing/../keep.key"] withKeepKey).1.code = 0 →
        ∀ output content l,
          freshOutput? {} ["keygen", "--out", "missing/../keep.key"] = some (output, content) →
            ¬Clobbers withKeepKey output content l)) := by
  have hparse : parse {} ["keygen", "--out", "missing/../keep.key"] =
      .ok ⟨"warn", .keygen ⟨"missing/../keep.key"⟩⟩ := by rfl
  have hopen : ∀ level input output keyFile, parse {} ["keygen", "--out", "missing/../keep.key"] ≠
      .ok ⟨level, .openFile input output keyFile⟩ := by
    intro level input output keyFile h
    rw [hparse] at h
    cases h
  exact ⟨hopen, keepsFiles_run_iff withKeepKey hopen⟩

/-- A missing directory hides the file beside it: the path is found fresh, the directory is made and
the file that the path then names is replaced. -/
theorem keygen_overwrites : ¬withKeepKey.tree.KeepsFiles
    (run {} ["keygen", "--out", "missing/../keep.key"] withKeepKey).2.tree := by
  intro hkeep
  have hbefore : withKeepKey.tree.find? ["keep.key"] =
      some (.file "keep me".toUTF8.toList 0o644) := by
    decide +kernel
  have hafter : (run {} ["keygen", "--out", "missing/../keep.key"] withKeepKey).2.tree.find?
      ["keep.key"] = some (.file (List.replicate 32 0) 0o600) := by
    decide +kernel
  rw [hkeep _ _ hbefore rfl] at hafter
  exact absurd hafter (by decide +kernel)

end Sealing.CommandLine
