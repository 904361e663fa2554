import EmulatorScout.Config.Store
import EmulatorScout.Proofs.Json.ReadBack
import EmulatorScout.Text.Utf8.RoundTrip

/-!
# Reading a written configuration

The text of a configuration stands for its remembered directories and its choice of output, and for
nothing else (`Config.ofText?_text`): the directories for one run are neither written nor read. So a
file with that text gives them back without a warning (`Config.ofContent_text`).
-/

set_option autoImplicit false

namespace EmulatorScout.Config

/-- What of a configuration outlasts a run: the same configuration without directories for one run. -/
def lasting (config : Config) : Config := { config with overrideDirs := none }

theorem mapM_string?_written (dirs : List String) :
    (Json.writtenItems (dirs.map .string)).mapM string? = some dirs := by
  induction dirs with
  | nil => rfl
  | cons dir dirs ih =>
    have hdir : string? (Json.written (.string dir)) = some dir := by
      rw [Json.written, string?, Json.Literal.decode_encode, Option.map_some, String.ofList_toList]
    rw [List.map_cons, Json.writtenItems, List.mapM_cons, hdir, ih]
    rfl

/-- The tree of a configuration stands for what of it outlasts a run. -/
theorem ofWritten?_written (config : Config) :
    ofWritten? config.toJson.written = some config.lasting := by
  -- the members are read one after the other, and neither name is taken for the other one
  have hnames : jsonMember.toList ≠ dirsMember.toList := by decide
  have hdirs : Found.add ⟨none, none⟩ (Json.Literal.encode dirsMember.toList,
      Json.written (.array (config.extraDirs.map .string)))
        = some ⟨some config.extraDirs, none⟩ := by
    simp [Found.add, Json.Literal.decode_encode, Json.written, dirs?, mapM_string?_written]
  have hjson : Found.add ⟨some config.extraDirs, none⟩ (Json.Literal.encode jsonMember.toList,
      Json.written (.truth config.json))
        = some ⟨some config.extraDirs, some config.json⟩ := by
    simp [Found.add, Json.Literal.decode_encode, Json.written, truth?, hnames]
  rw [toJson, Json.written, ofWritten?, Json.writtenMembers, Json.writtenMembers,
    Json.writtenMembers, List.foldlM_cons, hdirs, Option.bind_eq_bind, Option.bind_some,
    List.foldlM_cons, hjson]
  rfl

/-- The text of a configuration stands for what of it outlasts a run. -/
theorem ofText?_text (config : Config) : ofText? config.text = some config.lasting := by
  rw [ofText?, text, Json.read?_write, Option.bind_some, ofWritten?_written]

/-- A file with the text of a configuration gives it back, without a warning. -/
theorem ofContent_text (config : Config) :
    ofContent (Bytes.ofString config.text) = (config.lasting, none) := by
  rw [ofContent, Bytes.text?_ofString]
  simp only [ofText?_text]

end EmulatorScout.Config
