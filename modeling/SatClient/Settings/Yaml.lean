import SatClient.Settings.Basic
import SatClient.Yaml.Load
import SatClient.Yaml.Scalar.Written

/-! Settings as YAML: a mapping of four mappings. -/

namespace SatClient

open Yaml (RecordField Loader)

def UnsatRule.words : List (String × UnsatRule) :=
  [("sentinel", .sentinel), ("any_false", .anyFalse)]

def UnsatRule.word : UnsatRule → String
  | sentinel => "sentinel"
  | anyFalse => "any_false"

namespace Settings

def toYaml (settings : Settings) : List Char :=
  Yaml.Written.group "solver" [("base_url", settings.baseUrl)]
    ++ Yaml.Written.group "proxy" [("bind_address", settings.bindAddress)]
    ++ Yaml.Written.group "output"
      [("format", settings.format.word), ("report_directory", settings.reportDirectory.text)]
    ++ Yaml.Written.group "interpretation" [("unsat_rule", settings.rule.word)]

def loadSingle (record name : String) (loader : Loader α) : Loader α :=
  Yaml.loadRecord record [⟨name, Option.isSome, fun _ => loader.map some⟩] none
    (Yaml.require name)

structure OutputDraft where
  format : Option OutputFormat
  directory : Option String

def loadOutput : Loader (OutputFormat × String) :=
  let formatField : RecordField OutputDraft :=
    ⟨"format", (·.format.isSome), fun draft =>
      (Yaml.loadVariant OutputFormat.words).map fun format => { draft with format := some format }⟩
  let directoryField : RecordField OutputDraft :=
    ⟨"report_directory", (·.directory.isSome), fun draft =>
      (Yaml.loadText "path string").map fun text => { draft with directory := some text }⟩
  Yaml.loadRecord "OutputConfig" [formatField, directoryField] ⟨none, none⟩ fun draft => do
    let format ← Yaml.require "format" draft.format
    let directory ← Yaml.require "report_directory" draft.directory
    return (format, directory)

structure Draft where
  solver : Option String
  proxy : Option String
  output : Option (OutputFormat × String)
  interpretation : Option UnsatRule

def ofDraft (draft : Draft) : Except Yaml.Mismatch Settings := do
  let baseUrl ← Yaml.require "solver" draft.solver
  let bindAddress ← Yaml.require "proxy" draft.proxy
  let (format, directory) ← Yaml.require "output" draft.output
  let rule ← Yaml.require "interpretation" draft.interpretation
  return ⟨baseUrl, bindAddress, format, ⟨directory⟩, rule⟩

def loadAll : Loader Settings :=
  let solverField : RecordField Draft :=
    ⟨"solver", (·.solver.isSome), fun draft =>
      (loadSingle "SolverConfig" "base_url" (Yaml.loadText "a string")).map
        fun text => { draft with solver := some text }⟩
  let proxyField : RecordField Draft :=
    ⟨"proxy", (·.proxy.isSome), fun draft =>
      (loadSingle "ProxyConfig" "bind_address" (Yaml.loadText "a string")).map
        fun text => { draft with proxy := some text }⟩
  let outputField : RecordField Draft :=
    ⟨"output", (·.output.isSome), fun draft =>
      loadOutput.map fun output => { draft with output := some output }⟩
  let interpretationField : RecordField Draft :=
    ⟨"interpretation", (·.interpretation.isSome), fun draft =>
      (loadSingle "InterpretationConfig" "unsat_rule"
        (Yaml.loadVariant UnsatRule.words)).map
        fun rule => { draft with interpretation := some rule }⟩
  Yaml.loadRecord "Settings" [solverField, proxyField, outputField, interpretationField]
    ⟨none, none, none, none⟩ ofDraft

def ofYaml (text : List Char) : Except Yaml.LoadFault Settings :=
  Yaml.load loadAll text

end Settings

end SatClient
