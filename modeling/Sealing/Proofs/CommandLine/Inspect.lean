import Sealing.Proofs.CommandLine.FreshOutput
import Sealing.Proofs.CommandLine.Steps
import Sealing.Proofs.Report
/-!
# Inspecting

The command that inspects a file prints the report on it, and the report shows the whole header: two
files are shown alike exactly if they have the same header and ciphertexts of one length
(`inspect_shows_header`).
-/

namespace Sealing

open FileSystem

namespace CommandLine

variable {env : Environment} {arguments : List String} {input : Path} {data : List UInt8}
  {r : Report} {w : World}

theorem exec_runInspect (hread : w.tree.read w.working input = .ok data)
    (hinspect : Report.inspect data = .ok r) :
    Task.exec (runInspect input) w = (.ok (r.toJson.pretty ++ "\n"), w) := by
  unfold runInspect
  rw [Task.exec_bind, exec_readInput_eq_ok_iff.mpr ⟨hread, rfl⟩]
  simp only
  rw [Task.exec_bind, exec_step, Task.exec_ofResult, hinspect]
  rfl

theorem run_inspect {level : String} (hparse : parse env arguments = .ok ⟨level, .inspect input⟩)
    (hread : w.tree.read w.working input = .ok data) (hinspect : Report.inspect data = .ok r) :
    (run env arguments w).1.code = 0 ∧
      (run env arguments w).1.output = r.toJson.pretty ++ "\n" ∧ (run env arguments w).2 = w := by
  obtain ⟨hworld, hcode⟩ := run_of_parse_ok hparse w
  have hexec : Task.exec ((Command.inspect input).program env) w =
      (.ok (r.toJson.pretty ++ "\n"), w) := exec_runInspect hread hinspect
  rw [hworld, hcode, run_output_of_parse_ok hparse w, hexec]
  exact ⟨rfl, rfl, rfl⟩

/-- The JSON texts of two reports, without blanks or with one item a line, are the same exactly if
the files have one length and agree on their first 46 bytes.  So a report shows the whole header,
and of the ciphertext no more than its length.  A run that inspects a file prints the text with one
item a line. -/
theorem inspect_shows_header :
    (∀ data data' r r', Report.inspect data = .ok r → Report.inspect data' = .ok r' →
      (r.toJson.compact = r'.toJson.compact ↔
        data.length = data'.length ∧ data.take 46 = data'.take 46) ∧
      (r.toJson.pretty = r'.toJson.pretty ↔
        data.length = data'.length ∧ data.take 46 = data'.take 46)) ∧
    ∀ env arguments level input (w : World) data r,
      parse env arguments = .ok ⟨level, .inspect input⟩ →
      w.tree.read w.working input = .ok data → Report.inspect data = .ok r →
      (run env arguments w).1.code = 0 ∧
        (run env arguments w).1.output = r.toJson.pretty ++ "\n" := by
  refine ⟨fun data data' r r' h h' => ⟨?compact, ?pretty⟩, ?printed⟩
  case compact => exact Report.compact_eq_iff.trans (Report.eq_iff_of_inspect h h')
  case pretty => exact Report.pretty_eq_iff.trans (Report.eq_iff_of_inspect h h')
  case printed =>
    intro env arguments level input w data r hparse hread hinspect
    obtain ⟨hcode, houtput, -⟩ := run_inspect hparse hread hinspect
    exact ⟨hcode, houtput⟩

end CommandLine

end Sealing
