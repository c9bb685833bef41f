import Mathlib.Data.List.DropRight
import Sealing.Proofs.CommandLine.Authentic
import Sealing.Proofs.Text.Utf8
/-!
# A password comes to the same from either source

A password that is piped in stands in the first line of the input, with the line end behind it.
Nothing tells the end of the password from carriage returns at the end of the line, and so the
passwords that can be piped are those that fit a line (`FitsLine`): each of them is read back as it
is, however many carriage returns follow, and no other is ever read.  From the environment the same
password comes as it stands there, so that a file that was sealed with the one source is opened with
the other.
-/

namespace Sealing

open FileSystem

/-! ## The first line of an input -/

/-- The bytes in front of the first line feed of an input, or all of them. -/
def firstLine (input : List UInt8) : List UInt8 := input.takeWhile (· ≠ 10)

/-- What is behind the first line of an input and its line feed. -/
def otherLines (input : List UInt8) : List UInt8 := (input.dropWhile (· ≠ 10)).drop 1

theorem lineFeed_not_mem_firstLine (input : List UInt8) : 10 ∉ firstLine input := by
  intro h
  simpa using List.mem_takeWhile_imp h

theorem firstLine_of_not_mem {line : List UInt8} (h : 10 ∉ line) :
    firstLine line = line ∧ otherLines line = [] := by
  have hall : ∀ b ∈ line, decide (b ≠ 10) = true := by
    intro b hb
    exact decide_eq_true fun he => h (he ▸ hb)
  have hdrop : line.dropWhile (· ≠ 10) = [] := List.dropWhile_eq_nil_iff.mpr hall
  exact ⟨List.takeWhile_eq_self_iff.mpr hall, by rw [otherLines, hdrop]; rfl⟩

theorem firstLine_append {line : List UInt8} (h : 10 ∉ line) (rest : List UInt8) :
    firstLine (line ++ 10 :: rest) = line ∧ otherLines (line ++ 10 :: rest) = rest := by
  have hall : ∀ b ∈ line, decide (b ≠ 10) = true := by
    intro b hb
    exact decide_eq_true fun he => h (he ▸ hb)
  rw [firstLine, otherLines, List.takeWhile_append_of_pos hall, List.dropWhile_append_of_pos hall]
  exact ⟨List.append_nil line, rfl⟩

/-- A line is taken from the input with its line feed, if it has one. -/
theorem World.splitLine_eq (input : List UInt8) :
    splitLine input = (firstLine input, otherLines input) ∨
      splitLine input = (firstLine input ++ [10], otherLines input) := by
  induction input with
  | nil => exact .inl rfl
  | cons b input ih =>
    by_cases hb : b = 10
    · subst hb
      exact .inr rfl
    · have hfirst : firstLine (b :: input) = b :: firstLine input :=
        List.takeWhile_cons_of_pos (decide_eq_true hb)
      have hothers : otherLines (b :: input) = otherLines input := by
        show ((b :: input).dropWhile (· ≠ 10)).drop 1 = _
        rw [List.dropWhile_cons, if_pos (decide_eq_true hb)]
        rfl
      rw [splitLine, if_neg hb, hfirst, hothers]
      rcases ih with h | h
      · exact .inl (by rw [h])
      · exact .inr (by rw [h]; rfl)

namespace CommandLine

open Kdf (passwordBytes)
open Text

variable {env : Environment} {w : World} {p : String}

/-! ## The password of a line -/

/-- A password that a line can hold: it is not empty, has no line feed in it, and does not end in a
carriage return, which is taken for the end of the line. -/
structure FitsLine (p : String) : Prop where
  ne_empty : p ≠ ""
  one_line : '\n' ∉ p.toList
  no_return : p.toList.getLast? ≠ some '\r'

def isLineEnd (c : Char) : Bool := c = '\n' || c = '\r'

theorem toList_trimLineEnd (s : String) :
    (trimLineEnd s).toList = s.toList.rdropWhile isLineEnd :=
  String.toList_ofList

theorem trimLineEnd_eq_empty_iff {s : String} :
    trimLineEnd s = "" ↔ ∀ c ∈ s.toList, isLineEnd c = true := by
  rw [← String.toList_inj, toList_trimLineEnd]
  exact List.rdropWhile_eq_nil_iff

/-- Line ends at the end of a text make no difference. -/
theorem trimLineEnd_append (cs : List Char) {ends : List Char}
    (h : ∀ c ∈ ends, isLineEnd c = true) :
    trimLineEnd (String.ofList (cs ++ ends)) = trimLineEnd (String.ofList cs) := by
  have hends : ∀ c ∈ ends.reverse, isLineEnd c = true := by
    intro c hc
    exact h c (List.mem_reverse.mp hc)
  rw [← String.toList_inj, toList_trimLineEnd, toList_trimLineEnd, String.toList_ofList,
    String.toList_ofList, List.rdropWhile, List.reverse_append,
    List.dropWhile_append_of_pos hends]
  rfl

theorem trimLineEnd_of_fitsLine (h : FitsLine p) : trimLineEnd p = p := by
  rw [← String.toList_inj, toList_trimLineEnd, List.rdropWhile_eq_self_iff]
  intro hne hend
  have hlast : p.toList.getLast? = some (p.toList.getLast hne) := List.getLast?_eq_some_getLast hne
  simp only [isLineEnd, Bool.or_eq_true, decide_eq_true_eq] at hend
  rcases hend with hfeed | hreturn
  · exact h.one_line (hfeed ▸ List.getLast_mem hne)
  · exact h.no_return (hlast.trans (congrArg some hreturn))

/-- A line that is a text has this text without its end for its password, if that is not empty. -/
theorem passwordOfLine_passwordBytes (text : String) :
    passwordOfLine (passwordBytes text) =
      if trimLineEnd text = "" then .error (.plain "No password provided")
      else .ok (trimLineEnd text) := by
  have hsome : String.fromUTF8? ⟨(passwordBytes text).toArray⟩ = some text :=
    fromUTF8?_eq_some_iff.mpr rfl
  unfold passwordOfLine
  rw [hsome]

theorem passwordOfLine_of_not_text {line : List UInt8} (h : ∀ text, passwordBytes text ≠ line) :
    passwordOfLine line = .error (.ofSystem .invalidText) := by
  have hnone : String.fromUTF8? ⟨line.toArray⟩ = none :=
    Option.eq_none_iff_forall_ne_some.mpr fun text htext => h text (fromUTF8?_eq_some_iff.mp htext)
  unfold passwordOfLine
  rw [hnone]

/-- A line has a password exactly if it is a text of which something is left without its end. -/
theorem passwordOfLine_eq_ok_iff {line : List UInt8} :
    passwordOfLine line = .ok p ↔
      ∃ text, passwordBytes text = line ∧ trimLineEnd text = p ∧ p ≠ "" := by
  by_cases htext : ∃ text, passwordBytes text = line
  · obtain ⟨text, rfl⟩ := htext
    rw [passwordOfLine_passwordBytes]
    by_cases hempty : trimLineEnd text = ""
    · rw [if_pos hempty]
      constructor
      · intro h
        cases h
      · rintro ⟨text', hbytes, rfl, hne⟩
        rw [toList_toUTF8_inj.mp hbytes] at hne
        exact absurd hempty hne
    · rw [if_neg hempty, Except.ok.injEq]
      constructor
      · rintro rfl
        exact ⟨text, rfl, rfl, hempty⟩
      · rintro ⟨text', hbytes, rfl, -⟩
        rw [toList_toUTF8_inj.mp hbytes]
  · rw [passwordOfLine_of_not_text (not_exists.mp htext)]
    constructor
    · intro h
      cases h
    · rintro ⟨text, hbytes, -⟩
      exact absurd ⟨text, hbytes⟩ htext

/-- The line feed at the end of a line makes no difference to its password. -/
theorem passwordOfLine_concat_lineFeed (line : List UInt8) :
    passwordOfLine (line ++ [10]) = passwordOfLine line := by
  by_cases htext : ∃ text, passwordBytes text = line
  · obtain ⟨text, rfl⟩ := htext
    have hbytes : passwordBytes text ++ [10] =
        passwordBytes (String.ofList (text.toList ++ ['\n'])) := by
      unfold passwordBytes
      rw [toUTF8_ofList_append, toUTF8_lineFeed, String.ofList_toList]
    have htrim : trimLineEnd (String.ofList (text.toList ++ ['\n'])) = trimLineEnd text := by
      rw [trimLineEnd_append, String.ofList_toList]
      intro c hc
      rw [List.mem_singleton.mp hc]
      rfl
    rw [hbytes, passwordOfLine_passwordBytes, passwordOfLine_passwordBytes, htrim]
  · -- If the line with a line feed were a text, then so would be the line.
    have hnone : ∀ text, passwordBytes text ≠ line ++ [10] := by
      intro text hbytes
      obtain ⟨cs, -, hfront⟩ := exists_concat_of_toUTF8 hbytes
      exact htext ⟨_, hfront⟩
    rw [passwordOfLine_of_not_text hnone, passwordOfLine_of_not_text (not_exists.mp htext)]

/-- The password of a line is what is left of it without the carriage returns at its end. -/
theorem passwordOfLine_eq_ok_iff_of_line {line : List UInt8} (hline : 10 ∉ line) :
    passwordOfLine line = .ok p ↔
      FitsLine p ∧ ∃ count, line = passwordBytes p ++ List.replicate count 13 := by
  have hbyte : String.utf8EncodeChar '\r' = [13] := rfl
  rw [passwordOfLine_eq_ok_iff]
  constructor
  · rintro ⟨text, rfl, rfl, hne⟩
    -- All that was trimmed off are carriage returns, since there is no line feed.
    have hfeed : '\n' ∉ text.toList := fun h => hline (lineFeed_mem_toUTF8_iff.mpr h)
    have hends : ∀ c ∈ text.toList.rtakeWhile isLineEnd, c = '\r' := by
      intro c hc
      have hend : isLineEnd c = true := List.mem_rtakeWhile_imp hc
      have hmem : c ∈ text.toList := (List.rtakeWhile_suffix isLineEnd _).mem hc
      simp only [isLineEnd, Bool.or_eq_true, decide_eq_true_eq] at hend
      exact hend.resolve_left fun he => hfeed (he ▸ hmem)
    have hsplit : text.toList = (trimLineEnd text).toList ++
        List.replicate (text.toList.rtakeWhile isLineEnd).length '\r' := by
      rw [← List.eq_replicate_of_mem hends, toList_trimLineEnd, List.rdropWhile_append_rtakeWhile]
    refine ⟨⟨hne, ?_, ?_⟩, (text.toList.rtakeWhile isLineEnd).length, ?_⟩
    · intro h
      rw [hsplit] at hfeed
      exact hfeed (List.mem_append_left _ h)
    · intro hlast
      rw [toList_trimLineEnd] at hlast
      obtain ⟨hkept, hreturn⟩ := List.mem_getLast?_eq_getLast hlast
      have hend : isLineEnd '\r' = true := rfl
      rw [hreturn] at hend
      exact List.rdropWhile_last_not isLineEnd _ hkept hend
    · have hbytes := toUTF8_ofList_append (trimLineEnd text).toList
        (List.replicate (text.toList.rtakeWhile isLineEnd).length '\r')
      rwa [← hsplit, String.ofList_toList, String.ofList_toList, toUTF8_replicate hbyte] at hbytes
  · rintro ⟨hfits, count, rfl⟩
    refine ⟨String.ofList (p.toList ++ List.replicate count '\r'), ?_, ?_, hfits.ne_empty⟩
    · have hbytes := toUTF8_ofList_append p.toList (List.replicate count '\r')
      rwa [String.ofList_toList, toUTF8_replicate hbyte] at hbytes
    · rw [trimLineEnd_append, String.ofList_toList, trimLineEnd_of_fitsLine hfits]
      intro c hc
      rw [List.eq_of_mem_replicate hc]
      rfl

theorem FitsLine.lineFeed_not_mem (h : FitsLine p) (count : Nat) :
    10 ∉ passwordBytes p ++ List.replicate count 13 := by
  intro hmem
  rcases List.mem_append.mp hmem with hmem | hmem
  · exact h.one_line (lineFeed_mem_toUTF8_iff.mp hmem)
  · exact absurd (List.eq_of_mem_replicate hmem) (by decide)

theorem passwordOfLine_of_fitsLine (h : FitsLine p) (count : Nat) :
    passwordOfLine (passwordBytes p ++ List.replicate count 13) = .ok p :=
  (passwordOfLine_eq_ok_iff_of_line (h.lineFeed_not_mem count)).mpr ⟨h, count, rfl⟩

/-- A line without line feeds has no password exactly if it is no text, or carriage returns and
nothing else. -/
theorem passwordOfLine_eq_error_iff_of_line {line : List UInt8} (hline : 10 ∉ line) :
    (∃ failure, passwordOfLine line = .error failure) ↔
      (∀ text, passwordBytes text ≠ line) ∨ ∀ b ∈ line, b = 13 := by
  by_cases htext : ∃ text, passwordBytes text = line
  · obtain ⟨text, rfl⟩ := htext
    have hfeed : '\n' ∉ text.toList := fun h => hline (lineFeed_mem_toUTF8_iff.mpr h)
    have hempty : trimLineEnd text = "" ↔ ∀ b ∈ passwordBytes text, b = 13 := by
      refine Iff.trans ?_ forall_toUTF8_eq_return_iff.symm
      rw [trimLineEnd_eq_empty_iff]
      refine forall₂_congr fun c hc => ?_
      simp only [isLineEnd, Bool.or_eq_true, decide_eq_true_eq]
      exact or_iff_right fun he => hfeed (he ▸ hc)
    rw [passwordOfLine_passwordBytes, ← hempty]
    by_cases h : trimLineEnd text = ""
    · rw [if_pos h]
      exact ⟨fun _ => .inr h, fun _ => ⟨_, rfl⟩⟩
    · rw [if_neg h]
      constructor
      · rintro ⟨failure, hfailure⟩
        cases hfailure
      · rintro (hnone | hempty')
        · exact absurd rfl (hnone text)
        · exact absurd hempty' h
  · have hnone := not_exists.mp htext
    exact ⟨fun _ => .inl hnone, fun _ => ⟨_, passwordOfLine_of_not_text hnone⟩⟩

/-! ## The two sources -/

/-- No password is in the environment, or an empty one, so that the input is asked for it.  A value
that is no text is not in the environment either. -/
def AsksInput (env : Environment) : Prop :=
  env.password = none ∨ env.password = some ""

/-- A password in the environment is taken as it is, and the input is left alone. -/
theorem exec_readPassword_of_some (h : env.password = some p) (hne : p ≠ "") (w : World) :
    Task.exec (readPassword env) w = (.ok p, w) := by
  unfold readPassword
  simp only [h, if_neg hne]
  rfl

/-- Otherwise the first line of the input is taken, and its password is the answer. -/
theorem exec_readPassword_of_asksInput (h : AsksInput env) (w : World) :
    Task.exec (readPassword env) w =
      (passwordOfLine (firstLine w.input), { w with input := otherLines w.input }) := by
  have hasked : Task.exec (readPassword env) w =
      (passwordOfLine (World.splitLine w.input).1,
        { w with input := (World.splitLine w.input).2 }) := by
    unfold readPassword
    rcases h with hnone | hempty
    · simp only [hnone]
      rfl
    · simp only [hempty]
      rfl
  rw [hasked]
  -- The line comes with its line feed, which makes no difference to the password.
  rcases World.splitLine_eq w.input with hsplit | hsplit
  · rw [hsplit]
  · rw [hsplit, passwordOfLine_concat_lineFeed]

/-- What comes out of the input is the first line without the carriage returns at its end. -/
theorem exec_readPassword_eq_ok_iff (h : AsksInput env) :
    (Task.exec (readPassword env) w).1 = .ok p ↔
      FitsLine p ∧ ∃ count, firstLine w.input = passwordBytes p ++ List.replicate count 13 := by
  rw [exec_readPassword_of_asksInput h]
  exact passwordOfLine_eq_ok_iff_of_line (lineFeed_not_mem_firstLine _)

/-- The input has no password exactly if its first line is no text, or carriage returns and nothing
else. -/
theorem exec_readPassword_eq_error_iff (h : AsksInput env) :
    (∃ e, (Task.exec (readPassword env) w).1 = .error e) ↔
      (∀ text, passwordBytes text ≠ firstLine w.input) ∨ ∀ b ∈ firstLine w.input, b = 13 := by
  rw [exec_readPassword_of_asksInput h]
  exact passwordOfLine_eq_error_iff_of_line (lineFeed_not_mem_firstLine _)

/-- From either source, an empty password is none. -/
theorem ne_empty_of_exec_readPassword (h : (Task.exec (readPassword env) w).1 = .ok p) :
    p ≠ "" := by
  by_cases henv : AsksInput env
  · exact ((exec_readPassword_eq_ok_iff henv).mp h).1.ne_empty
  · -- The environment has a password that is not empty, and it is this one.
    cases hpassword : env.password with
    | none => exact absurd (.inl hpassword) henv
    | some password =>
      have hne : password ≠ "" := fun he => henv (.inr (he ▸ hpassword))
      rw [exec_readPassword_of_some hpassword hne] at h
      cases h
      exact hne

/-! ## Commands without a password -/

/-- Nothing is written without something to write. -/
theorem exec_writeFresh_of_error {content : Task Location Failure (List UInt8)}
    (hcontent : Task.ReadsOnly content) (h : ∀ bytes, (Task.exec content w).1 ≠ .ok bytes)
    (output : Path) (done : String) :
    (∃ e, (Task.exec (writeFresh output content done) w).1 = .error e) ∧
      (Task.exec (writeFresh output content done) w).2.tree = w.tree := by
  have hsame := hcontent w
  -- A path that is there is refused at once; otherwise the content is made, and fails.
  unfold writeFresh
  rw [Task.exec_bind, exec_expectFresh]
  by_cases hstat : (w.tree.stat w.working output).isOk = true
  · rw [if_pos hstat]
    exact ⟨⟨_, rfl⟩, rfl⟩
  · rw [if_neg hstat]
    simp only
    rw [Task.exec_bind]
    generalize Task.exec content w = last at h hsame ⊢
    obtain ⟨result, w₁⟩ := last
    cases result with
    | ok bytes => exact absurd rfl (h bytes)
    | error e => exact ⟨⟨e, rfl⟩, hsame.1⟩

/-- A command that needs a password, because it has no key file, fails without one and leaves every
file as it was. -/
theorem run_of_readPassword_error {command : Command} {arguments : List String} {level : String}
    {e : Failure} (hcommand : (∃ input output cost, command = .sealFile input output none cost) ∨
      ∃ input output, command = .openFile input output none)
    (hparse : parse env arguments = .ok ⟨level, command⟩)
    (h : (Task.exec (readPassword env) w).1 = .error e) :
    (run env arguments w).1.code = 1 ∧ (run env arguments w).2.tree = w.tree := by
  obtain ⟨hworld, hcode⟩ := run_of_parse_ok hparse w
  have hfails : (∃ e, (Task.exec (command.program env) w).1 = .error e) ∧
      (Task.exec (command.program env) w).2.tree = w.tree := by
    rcases hcommand with ⟨input, output, cost, rfl⟩ | ⟨input, output, rfl⟩
    · refine exec_writeFresh_of_error (sealContent_readsOnly env input none cost) ?_ output _
      intro bytes hbytes
      obtain ⟨message, w₁, hread, hseal⟩ := Task.exec_bind_ok hbytes
      obtain ⟨-, rfl⟩ := exec_readInput_eq_ok_iff.mp hread
      obtain ⟨password, nonce, hpassword, -⟩ := sealMessage_password_ok hseal
      rw [h] at hpassword
      cases hpassword
    · -- The file may be refused before it is asked for its password, so nothing is said of the error.
      refine exec_runOpen_of_not_opens output ?_
      rintro message ⟨data, secret, -, hgiven, -⟩
      cases secret with
      | key key =>
        obtain ⟨path, bytes, hnone, -⟩ := hgiven
        cases hnone
      | password password =>
        rw [Given, h] at hgiven
        cases hgiven.2
  obtain ⟨⟨e', he'⟩, htree⟩ := hfails
  rw [hworld, hcode, he']
  exact ⟨rfl, htree⟩

/-- A password comes to the same from the environment, whatever the input holds, and from the first
line of the input, whatever number of carriage returns and whatever lines come behind it.  No
password that is read is empty, and those from the input have no line feed in them and no carriage
return at their end.  Where the input is asked, a first line that is no text, or nothing without the
carriage returns at its end, and no other, gives no password; and a command that needs one then fails
and leaves every file as it was. -/
theorem readPassword_sources :
    (∀ env p w, env.password = some p → p ≠ "" →
      Task.exec (readPassword env) w = (.ok p, w)) ∧
    (∀ env p count w, AsksInput env →
      p ≠ "" → '\n' ∉ p.toList → p.toList.getLast? ≠ some '\r' →
      (w.input = passwordBytes p ++ List.replicate count 13 →
        Task.exec (readPassword env) w = (.ok p, { w with input := [] })) ∧
      ∀ rest, w.input = passwordBytes p ++ List.replicate count 13 ++ 10 :: rest →
        Task.exec (readPassword env) w = (.ok p, { w with input := rest })) ∧
    (∀ env p w, (Task.exec (readPassword env) w).1 = .ok p →
      p ≠ "" ∧ (AsksInput env → '\n' ∉ p.toList ∧ p.toList.getLast? ≠ some '\r')) ∧
    (∀ env w, AsksInput env →
      ((∃ e, (Task.exec (readPassword env) w).1 = .error e) ↔
        (∀ text, passwordBytes text ≠ firstLine w.input) ∨ ∀ b ∈ firstLine w.input, b = 13)) ∧
    (∀ env w, AsksInput env →
      (∀ text, passwordBytes text ≠ firstLine w.input) ∨ (∀ b ∈ firstLine w.input, b = 13) →
      ∀ arguments level command, parse env arguments = .ok ⟨level, command⟩ →
        (∃ input output cost, command = .sealFile input output none cost) ∨
          (∃ input output, command = .openFile input output none) →
        (run env arguments w).1.code = 1 ∧ (run env arguments w).2.tree = w.tree) := by
  refine ⟨?environment, ?input, ?read, ?refused, ?commands⟩
  case environment =>
    intro env p w hp hne
    exact exec_readPassword_of_some hp hne w
  case input =>
    intro env p count w henv hne hfeed hreturn
    have hfits : FitsLine p := ⟨hne, hfeed, hreturn⟩
    have hline := hfits.lineFeed_not_mem count
    have hok := passwordOfLine_of_fitsLine hfits count
    constructor
    · intro hinput
      obtain ⟨hfirst, hothers⟩ := firstLine_of_not_mem hline
      rw [exec_readPassword_of_asksInput henv, hinput, hfirst, hothers, hok]
    · intro rest hinput
      obtain ⟨hfirst, hothers⟩ := firstLine_append hline rest
      rw [exec_readPassword_of_asksInput henv, hinput, hfirst, hothers, hok]
  case read =>
    intro env p w h
    refine ⟨ne_empty_of_exec_readPassword h, fun henv => ?_⟩
    obtain ⟨hfits, -⟩ := (exec_readPassword_eq_ok_iff henv).mp h
    exact ⟨hfits.one_line, hfits.no_return⟩
  case refused =>
    intro env w henv
    exact exec_readPassword_eq_error_iff henv
  case commands =>
    intro env w henv hline arguments level command hparse hcommand
    obtain ⟨e, he⟩ := (exec_readPassword_eq_error_iff henv).mpr hline
    exact run_of_readPassword_error hcommand hparse he

end CommandLine

end Sealing
