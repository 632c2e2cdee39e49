import SatClient.Proofs.Files.Writing
import SatClient.Proofs.Settings.Yaml
import SatClient.Settings.File

/-! Settings that can be used and that were written to a file are read from it as they were. -/

namespace SatClient

namespace Settings

variable {settings : Settings} {tree : Files.Tree} {path : Files.Path}

/-- What is read is what a text says, provided that it can be used. -/
theorem read_eq_ok_iff
    : read tree path = .ok settings
      ↔ ∃ text,
        tree.readText path = .ok text ∧ ofYaml text = .ok settings
          ∧ settings.validate = .ok () := by
  simp only [read, bind_eq_ok_iff, mapError_eq_ok_iff]
  constructor
  · rintro ⟨text, isText, _, isSettings, ⟨⟩, usable, ⟨⟩⟩
    exact ⟨text, isText, isSettings, usable⟩
  · rintro ⟨text, isText, isSettings, usable⟩
    exact ⟨text, isText, settings, isSettings, (), usable, rfl⟩

/-- What is written is a file with the settings as YAML. -/
theorem readText_write (written : (settings.write tree path).fault = none)
    : (settings.write tree path).tree.readText path = .ok settings.toYaml := by
  rw [write] at written ⊢
  obtain ⟨-, goesOn⟩ := Files.Attempt.of_andThen written
  rw [goesOn] at written ⊢
  have done := Files.Attempt.eq_ok_of_ofStep written
  exact Files.Tree.readText_of_write (mapError_eq_ok_iff.mp done)

/-- Settings that can be used are read as they were written, whatever the tree that they were
written to, and whatever their texts hold.
-/
theorem read_of_written (usable : settings.validate = .ok ())
    (written : (settings.write tree path).fault = none)
    : read (settings.write tree path).tree path = .ok settings :=
  read_eq_ok_iff.mpr ⟨settings.toYaml, readText_write written, settings.ofYaml_toYaml, usable⟩

/-- Settings whose texts hold much that YAML has a meaning for. -/
def odd : Settings :=
  ⟨" HTTP://Solver.example:8080/a?b=c: d#e\t", "[::1%7]:0080", .json,
    ⟨"\n - null: 'no' # \\\"é\x07😀\x00 \n\n"⟩, .anyFalse⟩

def newFile : Files.Path := ⟨"a/b/../settings.yaml"⟩

/-- Such settings are read as they were written. -/
theorem read_of_written_odd
    : odd.validate = .ok ()
      ∧ (odd.write .empty newFile).fault = none
      ∧ read (odd.write .empty newFile).tree newFile = .ok odd := by
  have usable : odd.validate = .ok () := by with_unfolding_all rfl
  have written : (odd.write .empty newFile).fault = none := by decide +kernel
  exact ⟨usable, written, read_of_written usable written⟩

end Settings

end SatClient
