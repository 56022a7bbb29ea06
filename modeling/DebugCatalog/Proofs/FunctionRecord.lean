import DebugCatalog.FunctionRecord
import DebugCatalog.Proofs.DataType.Decoding
import DebugCatalog.Proofs.Json.Codecs

/-!
# Function records decoded

A function record is written as an object of six fields.  The types in it are read as
types always are, and the depth of the whole decides whether the text is accepted:

    decode f.toJson.compact = if f.toJson.depth ≤ depthLimit then .ok f else .error .malformed

`decode_compact` puts this beside the same law for types.  The two differ in how deep a
type may be: inside a record it has one or three levels around it.
-/

namespace DebugCatalog

open Json (Reads FillsDraft)

theorem DataType.reads_toJson (t : DataType) : Reads DataType.read t.toJson t where
  isWhole := isWhole_toJson t
  read := fun fuel room rest hfuel _ => read_render t fuel room rest hfuel

namespace FunctionRecord

theorem reads_parameters (ps : List (String × DataType)) :
    Reads (Json.readList (Json.readPair Json.readString DataType.read))
      (.array (ps.map parameterJson)) ps :=
  .list fun p _ => .pair (Json.reads_string p.1) p.2.reads_toJson

/-- The entries of a record fill an empty draft. -/
theorem fillsDraft_entries (f : FunctionRecord) :
    FillsDraft fields {} f.entries {
      shortName := some f.shortName
      fullName := some f.fullName
      rawName := some f.rawName
      address := some f.address
      returnType := some f.returnType
      parameters := some f.parameters } := by
  refine .cons rfl rfl ((Json.reads_string f.shortName).field ..) ?_
  refine .cons rfl rfl ((Json.reads_string f.fullName).field ..) ?_
  refine .cons rfl rfl ((Json.reads_string f.rawName).field ..) ?_
  refine .cons rfl rfl ((Json.reads_word f.address).field ..) ?_
  refine .cons rfl rfl (f.returnType.reads_toJson.field ..) ?_
  refine .cons rfl rfl ((reads_parameters f.parameters).field ..) ?_
  exact .nil _

theorem reads_toJson (f : FunctionRecord) : Reads read f.toJson f :=
  (Reads.record f.fillsDraft_entries "DebugFunctionInfo").settle rfl

/-- Decoding undoes encoding exactly for records within the depth limit. -/
theorem decode_toJson (f : FunctionRecord) :
    decode f.toJson.compact =
      if f.toJson.depth ≤ Json.depthLimit then .ok f else .error .malformed :=
  f.reads_toJson.readAll

end FunctionRecord

/-- **Types and function records are read back from their texts exactly if these are not
too deep.** -/
theorem decode_compact :
    (∀ t : DataType, DataType.decode t.toJson.compact =
      if t.toJson.depth ≤ Json.depthLimit then .ok t else .error .malformed) ∧
    ∀ f : FunctionRecord, FunctionRecord.decode f.toJson.compact =
      if f.toJson.depth ≤ Json.depthLimit then .ok f else .error .malformed :=
  ⟨DataType.decode_encode, FunctionRecord.decode_toJson⟩

end DebugCatalog
