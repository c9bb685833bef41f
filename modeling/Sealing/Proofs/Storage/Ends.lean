import Sealing.Proofs.FileSystem.Extends
import Sealing.Proofs.FileSystem.Overlay
import Sealing.Proofs.Program.Faults
import Sealing.Proofs.Storage.Directories
import Sealing.Proofs.Text.Hexadecimal
/-!
# How a save can end

A save makes directories, writes a new file beside the target and moves it there.  Whichever of its
calls fail, the tree that it leaves is one of three: nothing has come to the directories that were
made, the new file stays beside the target, or it stands at the target (`save_ends`).
-/

namespace Sealing

open FileSystem Tree

/-- Whether a call works on a file that is held open. -/
def Request.usesOpenFile {Handle : Type} : Request Handle → Bool
  | .write .. => true
  | .settle _ => true
  | _ => false

namespace Storage

variable {faults : Request Location → Prop} {working : Location} {path temporary : Path}
  {content : List UInt8} {made t t' start now : Tree} {l : Location} {result : Except Error Unit}

/-! ## Names of temporary files -/

theorem slash_not_mem_hexBytes (bytes : List UInt8) : '/' ∉ (Text.hexBytes bytes).toList := by
  intro hmem
  exact absurd (Text.mem_hexBytes hmem) (by decide)

theorem fileName?_of_targetName {name : String} (h : targetName path = .ok name) :
    path.fileName? = some name := by
  unfold targetName at h
  split at h
  · rename_i hfile
    cases h
    exact hfile
  · cases h

theorem slash_not_mem_temporary {name : String} (h : path.fileName? = some name)
    (random : FixedBytes 8) :
    '/' ∉ (name ++ ".tmp." ++ Text.hexBytes random.toList).toList := by
  rw [String.toList_append, String.toList_append, List.mem_append, List.mem_append, not_or, not_or]
  exact ⟨⟨Path.slash_not_mem_of_fileName? h, by decide⟩, slash_not_mem_hexBytes _⟩

/-- The name of a temporary file is longer than that of the target. -/
theorem temporary_ne (name : String) (random : FixedBytes 8) :
    name ++ ".tmp." ++ Text.hexBytes random.toList ≠ name := by
  intro h
  have hlength := congrArg String.length h
  rw [String.length_append, String.length_append] at hlength
  have hmiddle : ".tmp.".length = 5 := rfl
  omega

theorem temporary_ne_empty (name : String) (random : FixedBytes 8) :
    name ++ ".tmp." ++ Text.hexBytes random.toList ≠ "" := by
  intro hempty
  have htext := congrArg String.toList hempty
  rw [String.toList_append, String.toList_append, List.append_assoc] at htext
  exact absurd (List.append_eq_nil_iff.mp htext).2 (List.cons_ne_nil '.' _)

section Temporary

variable {name : String} {random : FixedBytes 8} (hname : path.fileName? = some name)

include hname

/-- The name of a temporary file is not that of the target. -/
theorem not_endsIn_of_vacancy
    (hl : t.vacancy working (temporaryPath path name random) = .ok l) : ¬path.EndsIn l := by
  rintro ⟨n, hn, hhead⟩
  rw [hname] at hn
  cases hn
  have htemporary := head?_of_vacancy_join (path.text_directory_ne) (temporary_ne_empty name random)
    (slash_not_mem_temporary hname random) hl
  rw [hhead] at htemporary
  exact temporary_ne name random (Option.some.inj htemporary).symm

theorem slash_of_place_temporary {place : Place}
    (h : t.place working (temporaryPath path name random) = .ok place) : place.slash = false :=
  slash_of_place_join (temporary_ne_empty name random) (slash_not_mem_temporary hname random) h

end Temporary

/-! ## The directories -/

/-- Whichever of the calls fail, nothing is made but directories on the way to the target. -/
theorem makeDirectories_runsWithin (path : Path) :
    Task.RunsWithin faults working (Extends working path.openings)
      (makeDirectories path.directory) := by
  refine .of_calls (.refl _ _) .trans (makeNested_calls fun p hp => ⟨?_, ?_⟩)
  · rintro before reply after (⟨-, hmade⟩ | ⟨-, rfl⟩)
    · exact .of_makeDirectory (Path.mem_openings_of_mem_ancestors hp) hmade
    · exact .refl ..
  · rintro before reply after (⟨-, rfl⟩ | ⟨-, rfl⟩)
    · exact .refl ..
    · exact .refl ..

/-! ## The temporary file -/

/-- An open file has some more bytes after a run of writes: all of them, or one of the writes
failed. -/
theorem writeRest_runs {mode taken : Nat} {written rest : List UInt8} (hl : l ≠ [])
    (hfile : t.find? l = some (.file written mode))
    (h : Task.Runs faults working (writeRest l taken rest) t t' result) :
    ∃ bytes, Sets t l (.file bytes mode) t' ∧
      (result = .ok () ∧ bytes = written ++ rest.drop taken ∨
        (∃ e, result = .error e) ∧ ∃ r, faults r ∧ r.usesOpenFile = true) := by
  -- On the bytes that are left; the first of them were taken by the call before.
  induction rest generalizing taken written t with
  | nil =>
    have hrun : Task.Runs faults working (pure ()) t t' result := by
      cases taken with
      | zero => exact h
      | succ taken => exact h
    obtain ⟨rfl, rfl⟩ := hrun.of_pure
    refine ⟨written, ⟨hfile, fun _ _ => rfl⟩, .inl ⟨rfl, ?_⟩⟩
    rw [List.drop_nil, List.append_nil]
  | cons b rest ih =>
    cases taken with
    | succ taken => exact ih hfile h
    | zero =>
      obtain ⟨reply, middle, hanswers, hsound, hrest⟩ := Task.Runs.of_request_bind h
      rcases hanswers with ⟨taken, -, rfl, rfl⟩ | ⟨⟨e, rfl⟩, rfl⟩
      · have hset := sets_append ((b :: rest).take taken) hl hfile
        cases taken with
        | zero =>
          obtain ⟨rfl, rfl⟩ := hrest.of_throw
          refine ⟨_, hset, .inr ⟨⟨_, rfl⟩, _, hsound.resolve_right ?_, rfl⟩⟩
          -- Without a fault something would have been taken.
          rintro ⟨taken, hok, hpos⟩
          cases hok
          exact absurd (hpos (List.cons_ne_nil b rest)) (Nat.lt_irrefl 0)
        | succ taken =>
          obtain ⟨bytes, hlast, hcases⟩ := ih hset.self hrest
          refine ⟨bytes, hset.trans hlast, ?_⟩
          rwa [List.take_succ_cons, List.append_assoc, List.cons_append,
            List.take_append_drop] at hcases
      · obtain ⟨rfl, rfl⟩ := hrest.of_throw
        refine ⟨written, ⟨hfile, fun _ _ => rfl⟩, .inr ⟨⟨_, rfl⟩, _, hsound.resolve_right ?_, rfl⟩⟩
        rintro ⟨taken, hok, -⟩
        cases hok

/-- Nothing is made, or a file where its path was vacant.  It has all of the content unless one of
the calls on it failed. -/
theorem writeNew_runs (h : Task.Runs faults working (writeNew temporary content) t t' result) :
    (∃ e, result = .error e) ∧ t' = t ∨
      ∃ l bytes, t.vacancy working temporary = .ok l ∧ Sets t l (.file bytes fileMode) t' ∧
        (result = .ok () ∧ bytes = content ∨
          (∃ e, result = .error e) ∧ ∃ r, faults r ∧ r.usesOpenFile = true) := by
  obtain ⟨reply, opened, hanswers, -, hopened⟩ := Task.Runs.of_request_bind h
  rcases hanswers with ⟨l, rfl, hcreate⟩ | ⟨⟨e, rfl⟩, rfl⟩
  · right
    rw [Task.orFail_ok_bind] at hopened
    obtain ⟨hl, rfl⟩ := createNew_eq_ok_iff.mp hcreate
    have hne := ne_nil_of_vacancy hl
    have hmade := Sets.insert t hne (.file [] fileMode)
    rcases hopened.bind_cases with ⟨_, written, hwrite, hwritten⟩ | ⟨e, hwrite, rfl⟩
    · obtain ⟨bytes, hset, ⟨-, rfl⟩ | ⟨⟨e, he⟩, -⟩⟩ := writeRest_runs hne hmade.self hwrite
      · obtain ⟨reply, settled, hsettle, hsound, hlast⟩ := Task.Runs.of_request_bind hwritten
        obtain rfl : settled = written := hsettle
        obtain ⟨rfl, rfl⟩ := hlast.of_result
        refine ⟨l, _, hl, hmade.trans hset, ?_⟩
        cases reply with
        | ok _ => exact .inl ⟨rfl, rfl⟩
        | error e => exact .inr ⟨⟨_, rfl⟩, _, hsound.resolve_right nofun, rfl⟩
      · cases he
    · obtain ⟨bytes, hset, ⟨hok, -⟩ | ⟨-, hfault⟩⟩ := writeRest_runs hne hmade.self hwrite
      · cases hok
      · exact ⟨l, bytes, hl, hmade.trans hset, .inr ⟨⟨e, rfl⟩, hfault⟩⟩
  · rw [Task.orFail_error_bind] at hopened
    obtain ⟨rfl, rfl⟩ := hopened.of_throw
    exact .inl ⟨⟨_, rfl⟩, rfl⟩

/-- A new file is moved to where the path leads, or it is removed unless that fails by a fault. -/
theorem replace_runs (hl : made.vacancy working temporary = .ok l)
    (hslash : ∀ place, made.place working temporary = .ok place → place.slash = false)
    (hset : Sets made l (.file content fileMode) t)
    (h : Task.Runs faults working (replace temporary path) t t' result) :
    (result = .ok () ∧ ∃ k, made.Names working path k ∧ made.find? k ≠ some .directory ∧
        Sets made k (.file content fileMode) t') ∨
      (∃ e, result = .error e) ∧
        ((∀ k, t'.find? k = made.find? k) ∨ t' = t ∧ faults (.remove temporary)) := by
  obtain ⟨reply, moved, hanswers, -, hmoved⟩ := Task.Runs.of_request_bind h
  rcases hanswers with ⟨rfl, hrename⟩ | ⟨⟨e, rfl⟩, rfl⟩
  · obtain ⟨rfl, rfl⟩ := hmoved.of_pure
    exact .inl ⟨rfl, sets_of_rename hl hset rfl hrename⟩
  right
  obtain ⟨reply, removed, hanswers, hsound, hremoved⟩ := Task.Runs.of_request_bind hmoved
  rcases hanswers with ⟨rfl, hremove⟩ | ⟨⟨cleanup, rfl⟩, rfl⟩
  · obtain ⟨rfl, rfl⟩ := hremoved.of_throw
    refine ⟨⟨_, rfl⟩, .inl fun k => ?_⟩
    rw [remove_of_vacancy hl hslash hset rfl, Except.ok.injEq] at hremove
    subst hremove
    by_cases hkl : k = l
    · rw [hkl, find?_erase_self _ (ne_nil_of_vacancy hl), find?_of_vacancy hl]
    · rw [find?_erase_of_ne _ hkl, hset.other k hkl]
  · -- The event on what is left behind changes nothing.
    obtain ⟨_, reported, hreport, -, hthrow⟩ := Task.Runs.of_request_bind hremoved
    obtain rfl : reported = removed := hreport
    obtain ⟨rfl, rfl⟩ := hthrow.of_throw
    refine ⟨⟨_, rfl⟩, .inr ⟨rfl, hsound.resolve_right fun hrefused => ?_⟩⟩
    have hremove := hrefused cleanup rfl
    rw [remove_of_vacancy hl hslash hset rfl] at hremove
    cases hremove

/-! ## The whole save -/

/-- The ways in which a save can end once its directories are made. -/
inductive Ends (faults : Request Location → Prop) (working : Location) (path : Path)
    (content : List UInt8) (made now : Tree) (result : Except Error Unit) : Prop where
  /-- Nothing else was done, or it was undone. -/
  | refused (failed : ∃ e, result = .error e) (same : ∀ l, now.find? l = made.find? l)
  /-- A file stays beside the target, since a call on it failed. -/
  | leftBehind {l : Location} {bytes : List UInt8} (failed : ∃ e, result = .error e)
      (beside : ¬path.EndsIn l) (vacant : made.find? l = none)
      (file : Sets made l (.file bytes fileMode) now)
      (cause : ∃ r, faults r ∧ (r.usesOpenFile = true ∨ ∃ p, r = .remove p))
  /-- The content stands at the target.  What can fail after that is to make the directory durable,
  and without a fault only if the path led there through the link that was replaced. -/
  | placed {l : Location} (named : made.Names working path l)
      (free : made.find? l ≠ some .directory) (file : Sets made l (.file content fileMode) now)
      (settled : result = .ok () ∨ (∃ e, result = .error e) ∧
        (faults (.settleDirectory path.directory) ∨ made.ThroughItself working path))

/-- The steps of a save after its directories: make the file, move it, make the move durable. -/
def publish {Handle : Type} (temporary path : Path) (content : List UInt8) :
    Task Handle Error Unit := do
  writeNew temporary content
  replace temporary path
  Task.orFail (← Task.request (.settleDirectory path.directory))
  Task.request (.report (.wrote path.text content.length))

theorem save_eq {Handle : Type} (path : Path) (content : List UInt8) :
    (save ⟨path⟩ content : Task Handle Error Unit) = (do
      makeDirectories path.directory
      let name ← ExceptT.mk (pure (targetName path))
      publish (temporaryPath path name (← Task.random 8)) path content) := rfl

/-- Where a file was put its directory can still be found, unless its path was a way to itself. -/
theorem throughItself_of_resolve_directory {e : SystemError} (hl : made.Names working path l)
    (hfree : made.find? l ≠ some .directory) (hset : Sets made l (.file content fileMode) t)
    (herror : t.resolve working path.directory = .error e) : made.ThroughItself working path := by
  by_contra hno
  have hread := (read_eq_ok_iff_of_sets hl hfree hset).mpr hno
  obtain ⟨hnames, -⟩ := read_of_sets hl hset hread
  obtain ⟨d, hd⟩ := exists_resolve_directory hnames hset.self
  rw [herror] at hd
  cases hd

/-- What is left to do once the file stands at the target. -/
theorem settle_runs (hl : made.Names working path l) (hfree : made.find? l ≠ some .directory)
    (hset : Sets made l (.file content fileMode) t) (h : Task.Runs faults working (do
      Task.orFail (← Task.request (.settleDirectory path.directory))
      Task.request (.report (.wrote path.text content.length))) t t' result) :
    t' = t ∧ (result = .ok () ∨ (∃ e, result = .error e) ∧
      (faults (.settleDirectory path.directory) ∨ made.ThroughItself working path)) := by
  obtain ⟨reply, settled, hsettle, hsound, hsettled⟩ := Task.Runs.of_request_bind h
  obtain rfl : settled = t := hsettle
  cases reply with
  | ok _ =>
    rw [Task.orFail_ok_bind] at hsettled
    obtain ⟨_, hreport, -, rfl⟩ := hsettled.of_request
    exact ⟨hreport, .inl rfl⟩
  | error e =>
    rw [Task.orFail_error_bind] at hsettled
    obtain ⟨rfl, rfl⟩ := hsettled.of_throw
    refine ⟨rfl, .inr ⟨⟨_, rfl⟩, hsound.imp_right fun hlost => ?_⟩⟩
    have hlost : Except.error e = (t'.resolve working path.directory).map fun _ => () := hlost
    cases hd : t'.resolve working path.directory with
    | ok d =>
      rw [hd] at hlost
      cases hlost
    | error e => exact throughItself_of_resolve_directory hl hfree hset hd

theorem publish_ends {name : String} {random : FixedBytes 8} (hname : path.fileName? = some name)
    (h : Task.Runs faults working (publish (temporaryPath path name random) path content) made now
      result) : Ends faults working path content made now result := by
  rcases Task.Runs.bind_cases h with ⟨_, written, hnew, hwritten⟩ | ⟨e, hnew, rfl⟩
  · rcases writeNew_runs hnew with ⟨⟨e, he⟩, -⟩ | ⟨l, bytes, hl, hset, ⟨-, rfl⟩ | ⟨⟨e, he⟩, -⟩⟩
    · cases he
    · have hslash (place : Place)
          (h : made.place working (temporaryPath path name random) = .ok place) :
          place.slash = false := slash_of_place_temporary hname h
      rcases hwritten.bind_cases with ⟨_, moved, hreplace, hmoved⟩ | ⟨e, hreplace, rfl⟩
      · rcases replace_runs hl hslash hset hreplace with
          ⟨-, k, hk, hfree, hplaced⟩ | ⟨⟨e, he⟩, -⟩
        · obtain ⟨rfl, hsettled⟩ := settle_runs hk hfree hplaced hmoved
          exact .placed hk hfree hplaced hsettled
        · cases he
      · rcases replace_runs hl hslash hset hreplace with ⟨hok, -⟩ | ⟨-, hsame | ⟨rfl, hfault⟩⟩
        · cases hok
        · exact .refused ⟨e, rfl⟩ hsame
        · exact .leftBehind ⟨e, rfl⟩ (not_endsIn_of_vacancy hname hl) (find?_of_vacancy hl) hset
            ⟨_, hfault, .inr ⟨_, rfl⟩⟩
    · cases he
  · rcases writeNew_runs hnew with ⟨-, rfl⟩ | ⟨l, bytes, hl, hset, ⟨hok, -⟩ | ⟨-, r, hr, huses⟩⟩
    · exact .refused ⟨e, rfl⟩ fun _ => rfl
    · cases hok
    · exact .leftBehind ⟨e, rfl⟩ (not_endsIn_of_vacancy hname hl) (find?_of_vacancy hl) hset
        ⟨r, hr, .inl huses⟩

/-- Whatever fails, a save makes directories on the way to its target and then ends in one of the
three ways. -/
theorem save_ends (h : Task.Runs faults working (save ⟨path⟩ content) start now result) :
    ∃ made, start.Extends working path.openings made ∧
      Ends faults working path content made now result := by
  rw [save_eq] at h
  rcases h.bind_cases with ⟨_, made, hmake, hmade⟩ | ⟨e, hmake, rfl⟩
  · refine ⟨made, makeDirectories_runsWithin path _ _ _ hmake, ?_⟩
    rcases hmade.bind_cases with ⟨name, named, htarget, hnamed⟩ | ⟨e, htarget, rfl⟩
    · obtain ⟨rfl, hok⟩ := htarget.of_result
      have hname := fileName?_of_targetName hok.symm
      have hdraw : Task.RunsWithin faults working Eq (Task.random 8) :=
        .of_calls .refl .trans (.random fun _ _ _ h => Eq.symm h)
      rcases hnamed.bind_cases with ⟨random, drawn, hrandom, hdrawn⟩ | ⟨e, hrandom, rfl⟩
      · obtain rfl := hdraw _ _ _ hrandom
        exact publish_ends hname hdrawn
      · obtain rfl := hdraw _ _ _ hrandom
        exact .refused ⟨e, rfl⟩ fun _ => rfl
    · obtain ⟨rfl, -⟩ := htarget.of_result
      exact .refused ⟨e, rfl⟩ fun _ => rfl
  · exact ⟨now, makeDirectories_runsWithin path _ _ _ hmake, .refused ⟨e, rfl⟩ fun _ => rfl⟩

end Storage

end Sealing
