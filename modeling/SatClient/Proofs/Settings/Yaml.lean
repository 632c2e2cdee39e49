import SatClient.Proofs.Yaml.Document
import SatClient.Proofs.Yaml.Loading
import SatClient.Settings.Yaml

/-! Settings are read back from the YAML that is written for them, whatever they hold. -/

namespace SatClient.Settings

open Yaml (Groups IsKey IsName Fills)

variable (settings : Settings)

/-- Settings as groups of entries. -/
def groups : Groups :=
  [("solver", [("base_url", settings.baseUrl)]),
    ("proxy", [("bind_address", settings.bindAddress)]),
    ("output",
      [("format", settings.format.word), ("report_directory", settings.reportDirectory.text)]),
    ("interpretation", [("unsat_rule", settings.rule.word)])]

theorem toYaml_eq : settings.toYaml = settings.groups.text := by
  simp [toYaml, groups, Groups.text]

theorem areKeyed_groups : settings.groups.AreKeyed := by
  have keys
      : ["solver", "base_url", "proxy", "bind_address", "output", "format", "report_directory",
          "interpretation", "unsat_rule"].all (IsKey ·) = true := by
    decide
  simp only [List.all_eq_true, List.forall_mem_cons, decide_eq_true_eq] at keys
  simp only [Groups.AreKeyed, groups, List.forall_mem_cons]
  simp [keys]

-----------------------------------------------------------------------------------------
-- Values
-----------------------------------------------------------------------------------------

theorem reads_format (format : OutputFormat) (style : Yaml.Style)
    : (Yaml.loadVariant OutputFormat.words).Reads [Yaml.textItem format.word.toList style]
        format := by
  have isWord
      : OutputFormat.words.find? (·.1.toList == format.word.toList)
        = some (format.word, format) := by
    cases format <;> decide
  exact Yaml.reads_loadVariant isWord style

theorem reads_rule (rule : UnsatRule) (style : Yaml.Style)
    : (Yaml.loadVariant UnsatRule.words).Reads [Yaml.textItem rule.word.toList style] rule := by
  have isWord
      : UnsatRule.words.find? (·.1.toList == rule.word.toList) = some (rule.word, rule) := by
    cases rule <;> decide
  exact Yaml.reads_loadVariant isWord style

theorem reads_text (expected text : String) (style : Yaml.Style)
    : (Yaml.loadText expected).Reads [Yaml.textItem text.toList style] text := by
  have reads := Yaml.reads_loadText expected text.toList none style
  rwa [String.ofList_toList] at reads

-----------------------------------------------------------------------------------------
-- Records
-----------------------------------------------------------------------------------------

/-- A record of one field is read from that field. -/
theorem reads_loadSingle {α : Type} {loader : Yaml.Loader α} {item : Yaml.Item} {value : α}
    (record name : String) (reads : loader.Reads [item] value)
    : (loadSingle record name loader).Reads
        [.mappingStart none, Yaml.textItem name.toList .plain, item, .mappingEnd] value := by
  let field : Yaml.RecordField (Option α) := ⟨name, Option.isSome, fun _ => loader.map some⟩
  have isField : [field].find? (·.name == name) = some field := by simp [field]
  exact Yaml.reads_loadRecord record (some value)
    (.cons isField rfl (reads.map some) (.done _)) rfl

theorem reads_loadOutput (format : OutputFormat) (directory : String) (style other : Yaml.Style)
    : loadOutput.Reads
        [.mappingStart none, Yaml.textItem "format".toList .plain,
          Yaml.textItem format.word.toList style,
          Yaml.textItem "report_directory".toList .plain,
          Yaml.textItem directory.toList other, .mappingEnd]
        (format, directory) := by
  have isFormat := (reads_format format style).map fun format => OutputDraft.mk (some format) none
  have isDirectory :=
    (reads_text "path string" directory other).map
      fun text => OutputDraft.mk (some format) (some text)
  simp only [loadOutput]
  refine Yaml.reads_loadRecord "OutputConfig" (OutputDraft.mk format directory) ?_ ?_
  · exact .cons rfl rfl isFormat (.cons rfl rfl isDirectory (.done _))
  · rfl

/-- All settings are read from the items of their groups. -/
theorem reads_loadAll : loadAll.Reads (Yaml.documentItems settings.groups) settings := by
  obtain ⟨baseUrl, bindAddress, format, ⟨directory⟩, rule⟩ := settings
  have solver :=
    (reads_loadSingle "SolverConfig" "base_url"
      (reads_text "a string" baseUrl (Yaml.Written.style baseUrl.toList))).map
      fun text => Draft.mk (some text) none none none
  have proxy :=
    (reads_loadSingle "ProxyConfig" "bind_address"
      (reads_text "a string" bindAddress (Yaml.Written.style bindAddress.toList))).map
      fun text => Draft.mk (some baseUrl) (some text) none none
  have output :=
    (reads_loadOutput format directory (Yaml.Written.style format.word.toList)
      (Yaml.Written.style directory.toList)).map
      fun output => Draft.mk (some baseUrl) (some bindAddress) (some output) none
  have interpretation :=
    (reads_loadSingle "InterpretationConfig" "unsat_rule"
      (reads_rule rule (Yaml.Written.style rule.word.toList))).map
      fun rule => Draft.mk (some baseUrl) (some bindAddress) (some (format, directory)) (some rule)
  refine
    Yaml.reads_loadRecord "Settings"
      (Draft.mk baseUrl bindAddress (some (format, directory)) rule) ?_ ?_
  · exact .entry [_, _, _, _] rfl rfl solver
      (.entry [_, _, _, _] rfl rfl proxy
        (.entry [_, _, _, _, _, _] rfl rfl output
          (.entry [_, _, _, _] rfl rfl interpretation (.done _))))
  · rfl

/-- Settings are read back from what is written for them, whatever they hold. -/
theorem ofYaml_toYaml : ofYaml settings.toYaml = .ok settings := by
  obtain ⟨document, isText, isWhole, isItems⟩ :=
    Yaml.Document.ofText_groups (by simp [groups]) settings.areKeyed_groups
  rw [← toYaml_eq] at isText
  exact Yaml.load_eq settings.reads_loadAll isText isWhole isItems

end SatClient.Settings
