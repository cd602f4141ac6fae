import LearningClient.Json.Typed

/-!
# Rights on a skill

What the backend says about a skill: which one it is, and whether its
description may be edited. It is read from an object or from an array of the
two fields.
-/

namespace LearningClient

open LearningClient.Json

/-- The rights on a skill. -/
structure SkillRights where
  skillId : String
  canEditDescription : Bool
deriving DecidableEq, Repr

/-- The fields read so far. -/
structure SkillRights.Fields where
  skillId : Option String
  canEditDescription : Option Bool

/-- A field that must be there. -/
def required {α : Type} (name : String) (field : Option α) : Except Cause α :=
  match field with
  | some v => .ok v
  | none => .error (.missingField name)

/-- How rights are read. -/
def SkillRights.record : Record SkillRights.Fields SkillRights where
  expected := "struct SkillRights"
  start := ⟨none, none⟩
  field := fun _ s name cs =>
    if name = "skill_id" then do
      let (v, rest) ← readField name s.skillId readText cs
      return ({ s with skillId := some v }, rest)
    else if name = "can_edit_skill_description" then do
      let (v, rest) ← readField name s.canEditDescription readBool cs
      return ({ s with canEditDescription := some v }, rest)
    else skipField s cs
  finish := fun s => do
    let skillId ← required "skill_id" s.skillId
    let canEditDescription ← required "can_edit_skill_description" s.canEditDescription
    return { skillId, canEditDescription }
  items := some fun _ cs => do
    let whole := "struct SkillRights with 2 elements"
    let (skillId, cs) ← readNthItem 0 whole none readText cs
    let (canEditDescription, cs) ← readNthItem 1 whole none readBool cs
    return ({ skillId, canEditDescription }, cs)

/-- Reads rights from a document. -/
def SkillRights.read : Reader SkillRights := SkillRights.record.read maxDepth

/-- Rights as a value, fields in their own order. -/
def SkillRights.toValue (r : SkillRights) : Value :=
  .obj [("skill_id", .str r.skillId),
    ("can_edit_skill_description", .bool r.canEditDescription)]

end LearningClient
